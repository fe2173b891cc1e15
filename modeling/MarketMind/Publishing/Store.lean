import Mathlib.Data.List.MinMax
import MarketMind.Publishing.Types
import MarketMind.Transactions.Store

/-!
Owns the publishing tables, the dispatch queue, the statements that the
publishing services execute on them, and which rows each statement holds until
its transaction ends.

The two partial unique indexes (one REAL intent per candidate, one PUBLISHED
result per intent) are checked when a row is written; the model lets them take
no lock, which only admits more runs. A job that has run stays in the queue
until it is removed, and a job may be delivered again.

Does not own what the services do with the statements.
-/

namespace MarketMind.Publishing

open MarketMind.Transactions

/-- A schedule that an intent has had. -/
structure BoundVersion where
  intentId : Uuid
  version : Nat
  binding : Binding
deriving DecidableEq, Repr

/-- A body handed to n8n, with the results that the database held then. -/
structure Outgoing where
  body : DispatchBody
  results : Table PublishingResult
deriving DecidableEq

/-- A candidate event that was applied, with the time of its receipt. -/
structure Ingested where
  candidateId : Uuid
  event : Json
  receivedAt : String
deriving DecidableEq

/-- The committed tables and the queue. The last four fields record what has
happened, oldest first; no statement reads them: every schedule of every intent,
which call has claimed which attempt, what was sent to n8n, and which candidate
events were applied. -/
structure World where
  intents : Table PublishingIntent
  approvals : List PublishingApproval
  attempts : Table PublishingAttempt
  results : Table PublishingResult
  identities : List PublishingCallbackIdentity
  exports : List PublishingExportMetadata
  candidates : Table PublishingCandidate
  targets : Table PublishingTarget
  jobs : List QueuedJob
  bindings : List BoundVersion
  claims : List (Uuid × Pid)
  sent : List Outgoing
  ingested : List Ingested
deriving DecidableEq

namespace World

/-- Nothing ingested, scheduled or connected yet. -/
def empty : World :=
  ⟨.empty, [], .empty, .empty, [], [], .empty, .empty, [], [], [], [], []⟩

/-- The attempts of an intent, in the order of their creation. -/
def attemptsOf (world : World) (intentId : Uuid) : List Uuid :=
  world.attempts.keysOf (·.intentId = intentId)

/-- `INTENT_SLOT_STATUSES`: every status but `CANCELLED`. -/
def occupies (row : PublishingIntent) : Bool :=
  row.mode = .real ∧ row.status ≠ .cancelled

/-- Whether the row would share the slot of its candidate with another intent. -/
def slotTaken (world : World) (row : PublishingIntent) : Bool :=
  occupies row && world.intents.rows.any fun other =>
    other.id ≠ row.id ∧ other.candidateId = row.candidateId ∧ occupies other

/-- Whether the intent of the row already has another PUBLISHED result. -/
def publishedTaken (world : World) (row : PublishingResult) : Bool :=
  row.outcome = .published && world.results.rows.any fun other =>
    other.attemptId ≠ row.attemptId ∧ other.intentId = row.intentId ∧ other.outcome = .published

end World

/-- One of the rows; an unordered query may return any of them. -/
def pick {Row : Type} (choice : Nat) (rows : List Row) : Option Row :=
  rows[choice % rows.length]?

/-- The rows that no row is above. -/
def maximal {Row : Type} (above : Row → Row → Bool) (rows : List Row) : List Row :=
  rows.filter fun row => rows.all fun other => !above other row

theorem mem_of_pick {Row : Type} {choice : Nat} {rows : List Row} {row : Row}
    (picked : pick choice rows = some row) : row ∈ rows :=
  List.mem_of_getElem? picked

theorem exists_pick_of_mem {Row : Type} {rows : List Row} {row : Row} (member : row ∈ rows) :
    ∃ choice, pick choice rows = some row := by
  obtain ⟨index, inside, same⟩ := List.mem_iff_getElem.mp member
  refine ⟨index, ?_⟩
  rw [pick, Nat.mod_eq_of_lt inside, List.getElem?_eq_getElem inside, same]

theorem exists_pick {Row : Type} (choice : Nat) {rows : List Row} (notEmpty : rows ≠ []) :
    ∃ row, pick choice rows = some row := by
  have positive : 0 < rows.length := List.length_pos_iff.mpr notEmpty
  exact ⟨_, List.getElem?_eq_getElem (Nat.mod_lt choice positive)⟩

theorem mem_of_maximal {Row : Type} {above : Row → Row → Bool} {rows : List Row} {row : Row}
    (member : row ∈ maximal above rows) : row ∈ rows :=
  (List.mem_filter.mp member).1

/-- A linear order on some rows has a greatest row. -/
theorem maximal_ne_nil {Row Rank : Type} [LinearOrder Rank] (rank : Row → Rank) {rows : List Row}
    (notEmpty : rows ≠ []) : maximal (fun left right => rank right < rank left) rows ≠ [] := by
  obtain ⟨greatest, isGreatest⟩ : ∃ greatest, rows.argmax rank = some greatest := by
    rw [← Option.ne_none_iff_exists', ne_eq, List.argmax_eq_none]
    exact notEmpty
  refine List.ne_nil_of_mem (a := greatest) (List.mem_filter.mpr ⟨List.argmax_mem isGreatest, ?_⟩)
  rw [List.all_eq_true]
  intro other member
  have atMost : rank other ≤ rank greatest := List.le_of_mem_argmax member isGreatest
  simpa using atMost

/-! ### Errors -/

/-- What a publishing call throws. -/
inductive PublishingError
  | notFound (message : String)
  | badRequest (message : String)
  | conflict (message : String)
  | unprocessable (message : String)
  | unauthorized (message : String)
  | versionConflict (currentVersion submitted : Nat)
  | statusConflict (currentStatus : IntentStatus)
  /-- `Error` -/
  | plain (message : String)
  | dispatchClaimLost (message : String)
  | callbackIdentityDuplicate (callbackId : String)
  | safeHttp (ambiguousDelivery : Bool)
  /-- Prisma's `P2002`. -/
  | uniqueConstraint
  /-- Prisma's `P2025`. -/
  | recordNotFound
  | transactionAborted
  | databaseFailure
deriving DecidableEq, Repr

/-! ### Statements -/

/-- What an applied state change writes. -/
structure CandidateUpdate where
  status : CandidateStatus
  sourceStatus : Json
  sourceStateVersion : Int
  eventFingerprint : String
  eventId : Uuid

/-- The intents that a withdrawal cancels: those of a candidate, or those bound
to a target. -/
inductive Cascade
  | candidate (id : Uuid)
  | target (id : Uuid)
deriving DecidableEq, Repr

def Cascade.selects : Cascade → PublishingIntent → Bool
  | candidate id, row =>
      row.candidateId = id ∧ row.status ∈ [IntentStatus.draft, .awaitingApproval, .scheduled]
  | target id, row =>
      row.binding.targetId = some id ∧
        row.status ∈ [IntentStatus.awaitingApproval, .scheduled]

/-- How n8n answered a dispatch. -/
inductive DispatchReply
  | accepted
  | failed (ambiguousDelivery : Bool)
deriving DecidableEq, Repr

inductive Statement
  | findIntent (id : Uuid)
  | findIntentByKey (businessId : Uuid) (idempotencyKey : String)
  | findSlotIntent (businessId candidateId : Uuid)
  | findOverdueIntents (now : Instant)
  | createIntent (row : PublishingIntent)
  | bindIntent (id : Uuid) (binding : Binding) (version : Nat)
  | rebindIntent (id : Uuid) (binding : Binding)
  | setIntentStatus (id : Uuid) (status : IntentStatus)
  | moveIntent (id : Uuid) (version : Option Nat) (among : List IntentStatus)
      (status : IntentStatus)
  | cancelIntents (cascade : Cascade)
  | lockIntent (id : Uuid)
  | findApprovalByKey (intentId : Uuid) (idempotencyKey : String)
  | findApproval (intentId : Uuid) (version : Nat)
  | findLatestApproval (intentId : Uuid)
  | createApproval (row : PublishingApproval)
  | findAttempt (id : Uuid)
  | findAttemptByKey (intentId : Uuid) (idempotencyKey : String)
  | findActiveAttempt (intentId : Uuid) (version : Nat)
  | findLastAttempt (intentId : Uuid) (version : Option Nat)
  | findNewestAttempt (intentId : Uuid)
  | countAttempts (intentId : Uuid) (version : Nat)
  | findStuckAttempts (cutoff : Instant)
  | createAttempt (row : PublishingAttempt)
  | stampAttempt (id : Uuid) (requestFingerprint workflowVersion : String)
  | updateAttempt (id : Uuid) (status : AttemptStatus) (finishedAt : Instant)
  | claimAttempt (id : Uuid)
  | acknowledgeAttempt (id : Uuid)
  | lockAttempt (id : Uuid)
  | findResult (attemptId : Uuid)
  | createResult (row : PublishingResult)
  | resolveResult (attemptId : Uuid) (outcome : PublicationOutcome)
      (remotePublicationId : Option String)
  | findIdentity (externalCallbackId : String)
  | createIdentity (row : PublishingCallbackIdentity)
  | createArchive (intentId : Uuid) (candidate : Json)
  | createExport (row : PublishingExportMetadata)
  | findCandidate (id : Uuid)
  | createCandidate (row : PublishingCandidate) (event : Json) (receivedAt : String)
  | updateCandidate (id : Uuid) (update : CandidateUpdate) (event : Json) (receivedAt : String)
  | findTarget (id : Uuid)
  | syncTarget (id : Uuid)
  | writeTarget (row : PublishingTarget)
  | addJob (jobId : JobId) (data : DispatchJob) (delay : Int)
  | findJob (jobId : JobId)
  | findDelayedJobs
  | removeJob (jobId : JobId)
  | turnJob (jobId : JobId) (state : Option JobState)
  | validateAssets (candidate : Json)
  | dispatch (body : DispatchBody)
  | recordAudit (action : String) (targetId : Uuid)

/-- What each statement returns. -/
def Statement.Reply : Statement → Type
  | findIntent _ | findIntentByKey _ _ | findSlotIntent _ _ => Option PublishingIntent
  | findOverdueIntents _ => List PublishingIntent
  | createIntent _ | bindIntent _ _ _ | rebindIntent _ _ | setIntentStatus _ _ => PublishingIntent
  | moveIntent _ _ _ _ | countAttempts _ _ | claimAttempt _ => Nat
  | findApprovalByKey _ _ | findApproval _ _ | findLatestApproval _ => Option PublishingApproval
  | createApproval _ => PublishingApproval
  | findAttempt _ | findAttemptByKey _ _ | findActiveAttempt _ _ | findLastAttempt _ _
  | findNewestAttempt _ => Option PublishingAttempt
  | findStuckAttempts _ => List PublishingAttempt
  | createAttempt _ => PublishingAttempt
  | findResult _ => Option PublishingResult
  | findIdentity _ => Option PublishingCallbackIdentity
  | findCandidate _ => Option PublishingCandidate
  | createCandidate _ _ _ => PublishingCandidate
  | updateCandidate _ _ _ _ => PublishingCandidate
  | findTarget _ => Option PublishingTarget
  | findJob _ => Option QueuedJob
  | findDelayedJobs => List QueuedJob
  | validateAssets _ => Bool
  | dispatch _ => DispatchReply
  | createArchive _ _ | createExport _ | syncTarget _ | recordAudit _ _
  | cancelIntents _ | lockIntent _ | stampAttempt _ _ _ | updateAttempt _ _ _
  | acknowledgeAttempt _ | lockAttempt _ | createResult _ | resolveResult _ _ _ | createIdentity _
  | writeTarget _ | addJob _ _ _ | removeJob _ | turnJob _ _ => Unit

abbrev publishing : Signature := ⟨Statement, Statement.Reply, PublishingError⟩

/-- What a call can hold: an intent with the list of its attempts, one row, or an
entry of a unique index. -/
inductive Key
  | intent (id : Uuid)
  | intentKey (businessId : Uuid) (idempotencyKey : String)
  | fingerprint (fingerprint : ApprovalFingerprint)
  | attempt (id : Uuid)
  | result (attemptId : Uuid)
  | identity (externalCallbackId : String)
  | candidate (id : Uuid)
  | target (id : Uuid)
deriving DecidableEq

/-- The rows under a key are the same in both worlds. -/
def Agree : Key → World → World → Prop
  | .intent id, left, right =>
      left.intents.find id = right.intents.find id ∧ left.attemptsOf id = right.attemptsOf id
  | .intentKey businessId idempotencyKey, left, right =>
      left.intents.keysOf (fun row =>
          row.businessId = businessId ∧ row.idempotencyKey = idempotencyKey) =
        right.intents.keysOf fun row =>
          row.businessId = businessId ∧ row.idempotencyKey = idempotencyKey
  | .fingerprint fingerprint, left, right =>
      left.approvals.filter (·.approvalFingerprint = fingerprint) =
        right.approvals.filter (·.approvalFingerprint = fingerprint)
  | .attempt id, left, right => left.attempts.find id = right.attempts.find id
  | .result attemptId, left, right => left.results.find attemptId = right.results.find attemptId
  | .identity externalCallbackId, left, right =>
      left.identities.filter (·.externalCallbackId = externalCallbackId) =
        right.identities.filter (·.externalCallbackId = externalCallbackId)
  | .candidate id, left, right => left.candidates.find id = right.candidates.find id
  | .target id, left, right => left.targets.find id = right.targets.find id

/-- A statement that only reads. -/
abbrev reading {α : Type} (reply : α) : Except PublishingError (Effect World Key α) :=
  .ok ⟨reply, id, []⟩

/-- A statement that returns nothing and changes the rows under `keys`. -/
abbrev writing (keys : List Key) (write : World → World) :
    Except PublishingError (Effect World Key Unit) :=
  .ok ⟨(), write, keys⟩

/-! ### Writes -/

/-- The row with the columns that a state change writes. -/
def CandidateUpdate.apply (update : CandidateUpdate) (row : PublishingCandidate) :
    PublishingCandidate :=
  { row with
    status := update.status
    sourceStatus := update.sourceStatus
    sourceStateVersion := update.sourceStateVersion
    eventFingerprint := update.eventFingerprint
    eventId := update.eventId }

/-- The values of an `Int` column. -/
def fitsInt4 (value : Int) : Bool := -2147483648 ≤ value && value ≤ 2147483647

namespace World

def changeIntent (world : World) (id : Uuid)
    (change : PublishingIntent → PublishingIntent)
    (sameKey : ∀ row, Keyed.key (change row) = Keyed.key row := by exact fun _ => rfl) : World :=
  { world with intents := world.intents.modify id change sameKey }

def setStatus (world : World) (id : Uuid) (status : IntentStatus) : World :=
  world.changeIntent id fun row => { row with status }

def cancelAll (world : World) (ids : List Uuid) : World :=
  { world with
    intents := world.intents.update (fun row => row.id ∈ ids)
      fun row => { row with status := .cancelled } }

/-- The intent under its next schedule, which nobody has approved. -/
def bind (world : World) (id : Uuid) (binding : Binding) (version : Nat) : World :=
  { world.changeIntent id (fun row => { row with binding, version, status := .awaitingApproval })
    with bindings := world.bindings ++ [⟨id, version, binding⟩] }

def changeAttempt (world : World) (id : Uuid)
    (change : PublishingAttempt → PublishingAttempt)
    (sameKey : ∀ row, Keyed.key (change row) = Keyed.key row := by exact fun _ => rfl) : World :=
  { world with attempts := world.attempts.modify id change sameKey }

def addResult (world : World) (row : PublishingResult) : World :=
  { world with results := world.results.insert row }

def addCandidate (world : World) (row : PublishingCandidate) (event : Json) (receivedAt : String) :
    World :=
  { world with
    candidates := world.candidates.insert row
    ingested := world.ingested ++ [⟨row.id, event, receivedAt⟩] }

def changeCandidate (world : World) (id : Uuid) (update : CandidateUpdate) (event : Json)
    (receivedAt : String) : World :=
  { world with
    candidates := world.candidates.modify id update.apply
    ingested := world.ingested ++ [⟨id, event, receivedAt⟩] }

/-- `add`, which does nothing with an id that the queue knows. -/
def enqueue (world : World) (jobId : JobId) (data : DispatchJob) (delay : Int) : World :=
  if world.jobs.any (·.jobId = jobId) then world
  else
    { world with
      jobs := world.jobs ++ [⟨jobId, data, if 0 < delay then .delayed else .waiting⟩] }

end World

/-- `status: { in: among }`, and the version when the query names one. -/
def matchesMove (version : Option Nat) (among : List IntentStatus) (row : PublishingIntent) : Bool :=
  version.all (· = row.version) && among.contains row.status

/-- Update the intent with this id; it has to exist, and the slot of its candidate
has to be free for the new row. -/
def updateIntent (world : World) (id : Uuid) (change : PublishingIntent → PublishingIntent)
    (write : World → World) : Except PublishingError (Effect World Key PublishingIntent) :=
  match world.intents.find id with
  | none => .error .recordNotFound
  | some row =>
      if world.slotTaken (change row) then .error .uniqueConstraint
      else .ok ⟨change row, write, [.intent id]⟩

/-- Update the attempt with this id; it has to exist. -/
def updateAttempt (world : World) (id : Uuid) (write : World → World) :
    Except PublishingError (Effect World Key Unit) :=
  if (world.attempts.find id).isSome then writing [.attempt id] write
  else .error .recordNotFound

/-- The queue moves the job with this id on, or loses it. -/
def turn (jobId : JobId) (state : Option JobState) (job : QueuedJob) : Option QueuedJob :=
  if job.jobId = jobId then state.map fun state => { job with state } else some job

/-- The statuses of an attempt that is under way or has succeeded. -/
def activeStatuses : List AttemptStatus := [.queued, .running, .dispatching, .succeeded]

/-- The effect of one statement of the call `pid` on the world that the call sees. -/
def exec (pid : Pid) (choice : Nat) (asked : Statement) (world : World) :
    Except PublishingError (Effect World Key asked.Reply) :=
  match asked with
  | .findIntent id => reading (world.intents.find id)
  | .findIntentByKey businessId idempotencyKey =>
      reading (world.intents.rows.find? fun row =>
        row.businessId = businessId ∧ row.idempotencyKey = idempotencyKey)
  | .findSlotIntent businessId candidateId =>
      reading (pick choice (world.intents.rows.filter fun row =>
        row.businessId = businessId ∧ row.candidateId = candidateId ∧ World.occupies row))
  | .findOverdueIntents now =>
      reading (world.intents.rows.filter fun row =>
        row.status = .scheduled ∧ row.binding.scheduledUtcAt.any (· < now))
  | .createIntent row =>
      let created : PublishingIntent := { row with id := world.intents.freshKey choice }
      if world.slotTaken created || world.intents.rows.any (fun other =>
          other.businessId = row.businessId ∧ other.idempotencyKey = row.idempotencyKey) then
        .error .uniqueConstraint
      else
        .ok ⟨created,
          fun world =>
            { world with
              intents := world.intents.insert created
              bindings := world.bindings ++ [⟨created.id, created.version, created.binding⟩] },
          [.intent created.id, .intentKey row.businessId row.idempotencyKey]⟩
  | .bindIntent id binding version =>
      updateIntent world id (fun row => { row with binding, version, status := .awaitingApproval })
        fun world => world.bind id binding version
  | .rebindIntent id binding =>
      let next := (world.intents.find id).elim 0 (·.version + 1)
      updateIntent world id
        (fun row => { row with binding, version := next, status := .awaitingApproval })
        fun world => world.bind id binding next
  | .setIntentStatus id status =>
      updateIntent world id (fun row => { row with status }) fun world => world.setStatus id status
  | .moveIntent id version among status =>
      if (world.intents.find id).any (matchesMove version among) then
        .ok ⟨(1 : Nat), fun world => world.setStatus id status, [.intent id]⟩
      else reading (0 : Nat)
  | .cancelIntents cascade =>
      let ids := world.intents.keysOf cascade.selects
      writing (ids.map .intent) fun world => world.cancelAll ids
  | .lockIntent id => writing [.intent id] fun world => world
  | .findApprovalByKey intentId idempotencyKey =>
      reading (pick choice (world.approvals.filter fun row =>
        row.intentId = intentId ∧ row.idempotencyKey = idempotencyKey))
  | .findApproval intentId version =>
      reading (pick choice (world.approvals.filter fun row =>
        row.intentId = intentId ∧ row.intentVersionAtDecision = version ∧
          row.decision = .approved))
  | .findLatestApproval intentId =>
      reading (pick choice (maximal (fun left right => right.decidedAt < left.decidedAt)
        (world.approvals.filter (·.intentId = intentId))))
  | .createApproval row =>
      if world.approvals.any (·.approvalFingerprint = row.approvalFingerprint) then
        .error .uniqueConstraint
      else
        let created : PublishingApproval := { row with id := choice }
        .ok ⟨created, fun world => { world with approvals := world.approvals ++ [created] },
          [.fingerprint row.approvalFingerprint]⟩
  | .findAttempt id => reading (world.attempts.find id)
  | .findAttemptByKey intentId idempotencyKey =>
      reading (world.attempts.rows.find? fun row =>
        row.intentId = intentId ∧ row.idempotencyKey = idempotencyKey)
  | .findActiveAttempt intentId version =>
      reading (pick choice (world.attempts.rows.filter fun row =>
        row.intentId = intentId ∧ row.intentVersion = version ∧ row.status ∈ activeStatuses))
  | .findLastAttempt intentId version =>
      reading (pick choice
        (maximal (fun left right => right.attemptSequence < left.attemptSequence)
          (world.attempts.rows.filter fun row =>
            row.intentId = intentId ∧ version.all (· = row.intentVersion))))
  | .findNewestAttempt intentId =>
      reading (pick choice
        (maximal (fun left right =>
            right.intentVersion < left.intentVersion ||
              (right.intentVersion = left.intentVersion &&
                right.attemptSequence < left.attemptSequence))
          (world.attempts.rows.filter (·.intentId = intentId))))
  | .countAttempts intentId version =>
      reading (world.attempts.rows.filter fun row =>
        row.intentId = intentId ∧ row.intentVersion = version).length
  | .findStuckAttempts cutoff =>
      reading (world.attempts.rows.filter fun row =>
        row.status ∈ [AttemptStatus.queued, .dispatching] ∧ row.createdAt < cutoff)
  | .createAttempt row =>
      if world.attempts.rows.any (fun other =>
          other.intentId = row.intentId ∧
            (other.idempotencyKey = row.idempotencyKey ∨
              (other.intentVersion = row.intentVersion ∧
                other.attemptSequence = row.attemptSequence))) then
        .error .uniqueConstraint
      else
        let created : PublishingAttempt := { row with id := world.attempts.freshKey choice }
        .ok ⟨created, fun world => { world with attempts := world.attempts.insert created },
          [.attempt created.id, .intent row.intentId]⟩
  | .stampAttempt id requestFingerprint workflowVersion =>
      updateAttempt world id fun world => world.changeAttempt id fun row =>
        { row with
          providerRequestFingerprint := some requestFingerprint
          workflowVersion := some workflowVersion }
  | .updateAttempt id status finishedAt =>
      updateAttempt world id fun world => world.changeAttempt id fun row =>
        { row with status, finishedAt := some finishedAt }
  | .claimAttempt id =>
      if (world.attempts.find id).any (·.status = .queued) then
        .ok ⟨(1 : Nat),
          fun world =>
            { world.changeAttempt id (fun row => { row with status := .dispatching }) with
              claims := world.claims ++ [(id, pid)] },
          [.attempt id]⟩
      else reading (0 : Nat)
  -- It writes `n8nExecutionRef` and `dispatchedAt`, which nothing reads.
  | .acknowledgeAttempt id =>
      writing (if (world.attempts.find id).any (·.status = .dispatching) then [.attempt id] else [])
        fun world => world
  | .lockAttempt id => writing [.attempt id] fun world => world
  | .findResult attemptId => reading (world.results.find attemptId)
  | .createResult row =>
      if (world.results.find row.attemptId).isSome || world.publishedTaken row then
        .error .uniqueConstraint
      else writing [.result row.attemptId] fun world => world.addResult row
  | .resolveResult attemptId outcome remotePublicationId =>
      match world.results.find attemptId with
      | none => .error .recordNotFound
      | some row =>
          if world.publishedTaken { row with outcome } then .error .uniqueConstraint
          else writing [.result attemptId] fun world =>
            { world with
              results := world.results.modify attemptId fun row =>
                { row with outcome, remotePublicationId } }
  | .findIdentity externalCallbackId =>
      reading (world.identities.find? (·.externalCallbackId = externalCallbackId))
  | .createIdentity row =>
      if world.identities.any (·.externalCallbackId = row.externalCallbackId) then
        .error .uniqueConstraint
      else writing [.identity row.externalCallbackId] fun world =>
        { world with identities := world.identities ++ [row] }
  | .findCandidate id => reading (world.candidates.find id)
  | .createCandidate row event receivedAt =>
      let created : PublishingCandidate := { row with receivedAt := choice }
      if (world.candidates.find row.id).isSome || world.candidates.rows.any (fun other =>
          other.eventFingerprint = row.eventFingerprint ∨
            (other.businessId = row.businessId ∧
              other.externalContentId = row.externalContentId ∧
              other.candidateChecksum = row.candidateChecksum)) then
        .error .uniqueConstraint
      else
        .ok ⟨created, fun world => world.addCandidate created event receivedAt,
          [.candidate row.id]⟩
  | .updateCandidate id update event receivedAt =>
      match world.candidates.find id with
      | none => .error .recordNotFound
      | some row =>
          if !fitsInt4 update.sourceStateVersion then .error .databaseFailure
          else if world.candidates.rows.any (fun other =>
              other.id ≠ id ∧ other.eventFingerprint = update.eventFingerprint) then
            .error .uniqueConstraint
          else
            .ok ⟨update.apply row, fun world => world.changeCandidate id update event receivedAt,
              [.candidate id]⟩
  | .createArchive _ _ => writing [] fun world => world
  | .createExport row =>
      writing [] fun world => { world with exports := world.exports ++ [row] }
  | .findTarget id => reading (world.targets.find id)
  -- What the synchronisation writes comes as `writeTarget` of its own.
  | .syncTarget _ => writing [] fun world => world
  | .writeTarget row =>
      writing [.target row.id] fun world =>
        { world with
          targets := (world.targets.insert row).update (·.id = row.id)
            fun old => { row with id := old.id } }
  | .addJob jobId data delay => writing [] fun world => world.enqueue jobId data delay
  | .findJob jobId => reading (world.jobs.find? (·.jobId = jobId))
  | .findDelayedJobs => reading (world.jobs.filter (·.state = .delayed))
  -- A job that a worker has locked cannot be removed.
  | .removeJob jobId =>
      if world.jobs.any (fun job => job.jobId = jobId ∧ job.state = .active) then
        .error (.plain "Could not remove job")
      else writing [] fun world => { world with jobs := world.jobs.filter (·.jobId ≠ jobId) }
  | .turnJob jobId state =>
      writing [] fun world => { world with jobs := world.jobs.filterMap (turn jobId state) }
  | .validateAssets _ => reading (choice % 2 = 0 : Bool)
  | .dispatch body =>
      .ok ⟨match choice with | 0 => .accepted | choice + 1 => .failed (choice % 2 = 0),
        fun world => { world with sent := world.sent ++ [⟨body, world.results⟩] }, []⟩
  | .recordAudit _ _ => writing [] fun world => world

/-! ### The store -/

theorem agree_refl (key : Key) (world : World) : Agree key world world := by
  cases key with
  | intent id => exact ⟨rfl, rfl⟩
  | intentKey | fingerprint | attempt | result | identity | candidate | target => rfl

theorem agree_trans (key : Key) {first second third : World} (left : Agree key first second)
    (right : Agree key second third) : Agree key first third := by
  cases key with
  | intent id => exact ⟨left.1.trans right.1, left.2.trans right.2⟩
  | intentKey | fingerprint | attempt | result | identity | candidate | target =>
      exact Eq.trans left right

/-- A change of the intents that leaves an intent as it is unless its row is held. -/
private theorem agree_intents {key : Key} {world : World} {intents : Table PublishingIntent}
    (sameIntent : ∀ id, key = .intent id → world.intents.find id = intents.find id)
    (sameKeys : ∀ businessId idempotencyKey, key = .intentKey businessId idempotencyKey →
      world.intents.keysOf (fun row =>
          row.businessId = businessId ∧ row.idempotencyKey = idempotencyKey) =
        intents.keysOf fun row =>
          row.businessId = businessId ∧ row.idempotencyKey = idempotencyKey)
    (bindings : List BoundVersion) : Agree key world { world with intents, bindings } := by
  cases key with
  | intent id => exact ⟨sameIntent id rfl, rfl⟩
  | intentKey businessId idempotencyKey => exact sameKeys businessId idempotencyKey rfl
  | fingerprint | attempt | result | identity | candidate | target => rfl

private theorem agree_update {key : Key} {world : World} {matching : PublishingIntent → Bool}
    {change : PublishingIntent → PublishingIntent}
    {sameKey : ∀ row, Keyed.key (change row) = Keyed.key row}
    (free : ∀ row, matching row = true → key ≠ .intent row.id)
    (sameOwner : ∀ row, (change row).businessId = row.businessId ∧
      (change row).idempotencyKey = row.idempotencyKey) (bindings : List BoundVersion) :
    Agree key world
      { world with intents := world.intents.update matching change sameKey, bindings } := by
  apply agree_intents
  · rintro id rfl
    rw [Table.find_update]
    cases found : world.intents.find id with
    | none => rfl
    | some row =>
        have same : row.id = id := Table.key_of_find found
        have unmatched : matching row ≠ true := fun matched => free row matched (same ▸ rfl)
        simp [unmatched]
  · rintro businessId idempotencyKey rfl
    refine (Table.keysOf_update ?_).symm
    intro row _
    rw [(sameOwner row).1, (sameOwner row).2]

private theorem agree_changeIntent {key : Key} {id : Uuid} {world : World}
    {change : PublishingIntent → PublishingIntent}
    {sameKey : ∀ row, Keyed.key (change row) = Keyed.key row}
    (free : key ∉ [Key.intent id])
    (sameOwner : ∀ row, (change row).businessId = row.businessId ∧
      (change row).idempotencyKey = row.idempotencyKey) (bindings : List BoundVersion) :
    Agree key world { world.changeIntent id change sameKey with bindings } := by
  apply @agree_update key world _ change sameKey ?_ sameOwner bindings
  rintro row matched rfl
  have same : row.id = id := by simpa using matched
  exact free (List.mem_singleton.mpr (congrArg Key.intent same))

private theorem agree_setStatus {key : Key} {id : Uuid} {status : IntentStatus}
    (free : key ∉ [Key.intent id]) (world : World) : Agree key world (world.setStatus id status) :=
  @agree_changeIntent key id world (fun row => { row with status }) (fun _ => rfl) free
    (fun _ => ⟨rfl, rfl⟩) world.bindings

private theorem agree_changeAttempt {key : Key} {id : Uuid} {world : World}
    {change : PublishingAttempt → PublishingAttempt}
    {sameKey : ∀ row, Keyed.key (change row) = Keyed.key row}
    (free : key ∉ [Key.attempt id]) (sameIntent : ∀ row, (change row).intentId = row.intentId) :
    Agree key world (world.changeAttempt id change sameKey) := by
  cases key with
  | attempt other =>
      have apart : other ≠ id := by
        rintro rfl
        exact free (List.mem_singleton_self _)
      exact (@Table.find_modify_of_ne _ _ _ _ change sameKey _ apart).symm
  | intent intentId =>
      refine ⟨rfl, (@Table.keysOf_update _ _ _ _ _ change sameKey ?_).symm⟩
      intro row _
      rw [sameIntent]
  | intentKey | fingerprint | result | identity | candidate | target => rfl

/-- Inserting a row that the selection does not pick leaves it as it is. -/
theorem keysOf_insert_outside {Row : Type} [Keyed Row] {selected : Row → Bool} {row : Row}
    (table : Table Row) (outside : selected row = false) :
    (table.insert row).keysOf selected = table.keysOf selected := by
  cases known : table.find (Keyed.key row) with
  | some old => rw [Table.insert_of_used known]
  | none =>
      rw [Table.keysOf_insert known, outside]
      simp

private theorem agree_createAttempt {key : Key} {row : PublishingAttempt}
    (free : key ∉ [Key.attempt row.id, .intent row.intentId]) (world : World) :
    Agree key world { world with attempts := world.attempts.insert row } := by
  cases key with
  | attempt id =>
      refine (Table.find_insert_of_ne ?_).symm
      rintro rfl
      simp at free
  | intent intentId =>
      have outside : row.intentId ≠ intentId := by
        rintro rfl
        simp at free
      exact ⟨rfl, (keysOf_insert_outside world.attempts (decide_eq_false outside)).symm⟩
  | intentKey | fingerprint | result | identity | candidate | target => rfl

private theorem agree_results {key : Key} {attemptId : Uuid} {world : World}
    {results : Table PublishingResult} (free : key ∉ [Key.result attemptId])
    (same : ∀ other, other ≠ attemptId → world.results.find other = results.find other) :
    Agree key world { world with results } := by
  cases key with
  | result other =>
      refine same other ?_
      rintro rfl
      exact free (List.mem_singleton_self _)
  | intent => exact ⟨rfl, rfl⟩
  | intentKey | fingerprint | attempt | identity | candidate | target => rfl

private theorem agree_approvals {key : Key} {row : PublishingApproval}
    (free : key ∉ [Key.fingerprint row.approvalFingerprint]) (world : World) :
    Agree key world { world with approvals := world.approvals ++ [row] } := by
  cases key with
  | fingerprint fingerprint =>
      have outside : row.approvalFingerprint ≠ fingerprint := by
        rintro rfl
        simp at free
      simp [Agree, List.filter_append, outside]
  | intent => exact ⟨rfl, rfl⟩
  | intentKey | attempt | result | identity | candidate | target => rfl

private theorem agree_identities {key : Key} {row : PublishingCallbackIdentity}
    (free : key ∉ [Key.identity row.externalCallbackId]) (world : World) :
    Agree key world { world with identities := world.identities ++ [row] } := by
  cases key with
  | identity externalCallbackId =>
      have outside : row.externalCallbackId ≠ externalCallbackId := by
        rintro rfl
        simp at free
      simp [Agree, List.filter_append, outside]
  | intent => exact ⟨rfl, rfl⟩
  | intentKey | fingerprint | attempt | result | candidate | target => rfl

private theorem agree_candidates {key : Key} {id : Uuid} {world : World}
    {candidates : Table PublishingCandidate} (free : key ∉ [Key.candidate id])
    (same : ∀ other, other ≠ id → world.candidates.find other = candidates.find other)
    (ingested : List Ingested) : Agree key world { world with candidates, ingested } := by
  cases key with
  | candidate other =>
      refine same other ?_
      rintro rfl
      exact free (List.mem_singleton_self _)
  | intent => exact ⟨rfl, rfl⟩
  | intentKey | fingerprint | attempt | result | identity | target => rfl

private theorem agree_targets {key : Key} {id : Uuid} {world : World}
    {targets : Table PublishingTarget} (free : key ∉ [Key.target id])
    (same : ∀ other, other ≠ id → world.targets.find other = targets.find other) :
    Agree key world { world with targets } := by
  cases key with
  | target other =>
      refine same other ?_
      rintro rfl
      exact free (List.mem_singleton_self _)
  | intent => exact ⟨rfl, rfl⟩
  | intentKey | fingerprint | attempt | result | identity | candidate => rfl

/-- The exports, the queue, the claims and what was sent are under no key. -/
private theorem agree_queue (key : Key) (jobs : List QueuedJob) (claims : List (Uuid × Pid))
    (sent : List Outgoing) (exports : List PublishingExportMetadata) (world : World) :
    Agree key world { world with jobs, claims, sent, exports } := by
  cases key with
  | intent id => exact ⟨rfl, rfl⟩
  | intentKey | fingerprint | attempt | result | identity | candidate | target => rfl

/-- What an update of one intent does, and when. -/
theorem updateIntent_eq {world : World} {id : Uuid} {change : PublishingIntent → PublishingIntent}
    {write : World → World} {effect : Effect World Key PublishingIntent}
    (executed : updateIntent world id change write = .ok effect) :
    ∃ row, world.intents.find id = some row ∧ effect = ⟨change row, write, [.intent id]⟩ := by
  unfold updateIntent at executed
  split at executed
  · cases executed
  · next row found =>
    obtain ⟨-, executed⟩ := ok_of_unless executed
    exact ⟨row, found, (Except.ok.inj executed).symm⟩

theorem updateIntent_ok {world : World} {id : Uuid} {row : PublishingIntent}
    {change : PublishingIntent → PublishingIntent} {write : World → World}
    (found : world.intents.find id = some row) (free : world.slotTaken (change row) = false) :
    updateIntent world id change write = .ok ⟨change row, write, [.intent id]⟩ := by
  simp [updateIntent, found, free]

theorem updateAttempt_eq {world : World} {id : Uuid} {write : World → World}
    {effect : Effect World Key Unit} (executed : updateAttempt world id write = .ok effect) :
    ∃ row, world.attempts.find id = some row ∧ effect = ⟨(), write, [.attempt id]⟩ := by
  unfold updateAttempt at executed
  obtain ⟨known, executed⟩ := ok_of_when executed
  obtain ⟨row, found⟩ := Option.isSome_iff_exists.mp known
  exact ⟨row, found, (Except.ok.inj executed).symm⟩

/-- A statement touches only the rows that it holds. -/
theorem exec_framed {pid : Pid} {choice : Nat} {asked : Statement} {world : World}
    {effect : Effect World Key asked.Reply} (executed : exec pid choice asked world = .ok effect)
    (key : Key) (free : key ∉ effect.keys) (other : World) :
    Agree key other (effect.write other) := by
  cases asked <;> simp only [exec] at executed
  case createIntent row =>
    obtain ⟨-, executed⟩ := ok_of_unless executed
    cases executed
    apply agree_intents
    · rintro id rfl
      refine (Table.find_insert_of_ne ?_).symm
      rintro rfl
      simp at free
    · rintro businessId idempotencyKey rfl
      refine (keysOf_insert_outside other.intents (decide_eq_false ?_)).symm
      rintro ⟨rfl, rfl⟩
      simp at free
  case bindIntent id binding version =>
    obtain ⟨row, -, rfl⟩ := updateIntent_eq executed
    refine agree_changeIntent free ?_ _
    exact fun _ => ⟨rfl, rfl⟩
  case rebindIntent id binding =>
    obtain ⟨row, -, rfl⟩ := updateIntent_eq executed
    refine agree_changeIntent free ?_ _
    exact fun _ => ⟨rfl, rfl⟩
  case setIntentStatus id status =>
    obtain ⟨row, -, rfl⟩ := updateIntent_eq executed
    exact agree_setStatus free other
  case moveIntent id version among status =>
    split at executed <;> cases executed
    · exact agree_setStatus free other
    · exact agree_refl key other
  case cancelIntents cascade =>
    cases executed
    refine agree_update ?_ ?_ _
    on_goal 2 => exact fun _ => ⟨rfl, rfl⟩
    rintro row matched rfl
    exact free (List.mem_map_of_mem (of_decide_eq_true matched))
  case createApproval row =>
    obtain ⟨-, executed⟩ := ok_of_unless executed
    cases executed
    exact @agree_approvals key { row with id := choice } free other
  case createAttempt row =>
    obtain ⟨-, executed⟩ := ok_of_unless executed
    cases executed
    exact agree_createAttempt free other
  case stampAttempt id requestFingerprint workflowVersion =>
    obtain ⟨row, -, rfl⟩ := updateAttempt_eq executed
    apply agree_changeAttempt free
    exact fun _ => rfl
  case updateAttempt id status finishedAt =>
    obtain ⟨row, -, rfl⟩ := updateAttempt_eq executed
    apply agree_changeAttempt free
    exact fun _ => rfl
  case claimAttempt id =>
    split at executed <;> cases executed
    · apply agree_trans key (agree_changeAttempt free ?_) (agree_queue key _ _ _ _ _)
      exact fun _ => rfl
    · exact agree_refl key other
  case createResult row =>
    obtain ⟨-, executed⟩ := ok_of_unless executed
    cases executed
    exact agree_results free fun id apart => (Table.find_insert_of_ne apart).symm
  case resolveResult attemptId outcome remotePublicationId =>
    split at executed
    · cases executed
    · obtain ⟨-, executed⟩ := ok_of_unless executed
      cases executed
      exact agree_results free fun id apart => (Table.find_modify_of_ne apart).symm
  case createIdentity row =>
    obtain ⟨-, executed⟩ := ok_of_unless executed
    cases executed
    exact agree_identities free other
  case createCandidate row event receivedAt =>
    obtain ⟨-, executed⟩ := ok_of_unless executed
    cases executed
    exact agree_candidates free (fun id apart => (Table.find_insert_of_ne apart).symm) _
  case updateCandidate id update event receivedAt =>
    split at executed
    · cases executed
    · obtain ⟨-, executed⟩ := ok_of_unless executed
      obtain ⟨-, executed⟩ := ok_of_unless executed
      cases executed
      exact agree_candidates free (fun id apart => (Table.find_modify_of_ne apart).symm) _
  case writeTarget row =>
    cases executed
    refine agree_targets free fun id apart => ?_
    rw [Table.find_update, Table.find_insert_of_ne apart]
    cases found : other.targets.find id with
    | none => rfl
    | some old =>
        have same : old.id = id := Table.key_of_find found
        simp [same, apart]
  case addJob jobId data delay =>
    cases executed
    dsimp only [World.enqueue]
    split
    · exact agree_refl key other
    · exact agree_queue key _ _ _ _ other
  case removeJob jobId =>
    obtain ⟨-, executed⟩ := ok_of_unless executed
    cases executed
    exact agree_queue key _ _ _ _ other
  case turnJob jobId state =>
    cases executed
    exact agree_queue key _ _ _ _ other
  case createExport row =>
    cases executed
    exact agree_queue key _ _ _ _ other
  case dispatch body =>
    cases executed
    exact agree_queue key _ _ _ _ other
  all_goals
    cases executed
    exact agree_refl key other

/-- The publishing database, with its queue and n8n. -/
def store : Store publishing World Key where
  exec := exec
  Agree := Agree
  agree_refl := agree_refl
  agree_trans := agree_trans
  framed := exec_framed
  aborted := .transactionAborted
  databaseFailure := .databaseFailure

end MarketMind.Publishing
