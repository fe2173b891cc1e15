import MarketMind.Publishing.MissedJobs

/-!
Owns when a proven failure can be retried. The retry looks at the attempt with the
greatest sequence, whatever its version, and at its own status; an attempt that an
administrator resolved as failed stays `UNKNOWN`, and sequences start again with
every version.
-/

namespace MarketMind.Publishing.Intents

open MarketMind.Transactions Store Reconciliation

/-! ### The rows that decide -/

/-- The latest decisions about the intent. -/
def latestApprovals (world : World) (intentId : Uuid) : List PublishingApproval :=
  maximal (fun left right => right.decidedAt < left.decidedAt)
    (world.approvals.filter (·.intentId = intentId))

/-- The attempts with the greatest sequence, of any version. -/
def lastAttempts (world : World) (intentId : Uuid) : List PublishingAttempt :=
  maximal (fun left right => right.attemptSequence < left.attemptSequence)
    (world.attempts.rows.filter (·.intentId = intentId))

/-- The attempts that callbacks take to be current: greatest version, then sequence. -/
def newestAttempts (world : World) (intentId : Uuid) : List PublishingAttempt :=
  maximal (fun left right =>
      right.intentVersion < left.intentVersion ||
        (right.intentVersion = left.intentVersion &&
          right.attemptSequence < left.attemptSequence))
    (world.attempts.rows.filter (·.intentId = intentId))

/-- A REAL publication whose newest attempt, of this number, has provably failed. -/
structure FailureProven (world : World) (intent : PublishingIntent) (number : Nat) : Prop where
  stored : world.intents.find intent.id = some intent
  real : intent.mode = .real
  failed : intent.status = .failed
  approved : ∃ approval ∈ world.approvals, approval.intentId = intent.id ∧
    approval.intentVersionAtDecision = intent.version ∧ approval.decision = .approved
  newest : ∃ attempt ∈ newestAttempts world intent.id, attempt.attemptSequence = number ∧
    (attempt.status = .failed ∨
      (world.results.find attempt.id).any (·.outcome = .failed) = true)
  /-- The partial unique index over the slots of candidates. -/
  slot : world.slotTaken intent = false

instance (world : World) (intent : PublishingIntent) (number : Nat) :
    Decidable (FailureProven world intent number) :=
  decidable_of_iff
    (world.intents.find intent.id = some intent ∧ intent.mode = .real ∧ intent.status = .failed ∧
      (∃ approval ∈ world.approvals, approval.intentId = intent.id ∧
        approval.intentVersionAtDecision = intent.version ∧ approval.decision = .approved) ∧
      (∃ attempt ∈ newestAttempts world intent.id, attempt.attemptSequence = number ∧
        (attempt.status = .failed ∨
          (world.results.find attempt.id).any (·.outcome = .failed) = true)) ∧
      world.slotTaken intent = false)
    ⟨fun ⟨stored, real, failed, approved, newest, slot⟩ =>
        ⟨stored, real, failed, approved, newest, slot⟩,
      fun failure => ⟨failure.stored, failure.real, failure.failed, failure.approved,
        failure.newest, failure.slot⟩⟩

/-- The retry succeeds, and the queue still has to run a job for the intent. -/
structure Requeues (schedule : Schedule) (now : Instant) (world : World)
    (intent : PublishingIntent) (request : RetryRequest) : Prop where
  accepted : ∃ updated,
    (store.call schedule (retryIntent intent.id intent.businessId request now) world).1 = .ok updated
  scheduled : ∃ updated,
    (store.call schedule (retryIntent intent.id intent.businessId request now) world).2.intents.find
      intent.id = some updated ∧ updated.status = .scheduled
  served : Served
    (store.call schedule (retryIntent intent.id intent.businessId request now) world).2 intent

/-- What the retry needs to find. -/
structure Retryable (world : World) (intent : PublishingIntent) (request : RetryRequest) : Prop where
  attempts : ∀ attempt ∈ lastAttempts world intent.id, provenFailure request attempt = true
  approvals : ∀ approval ∈ latestApprovals world intent.id,
    approval.intentVersionAtDecision = intent.version
  queued : Served world intent ∨ (intent.binding.scheduledUtcAt.isSome = true ∧
    ∀ job ∈ world.jobs, job.jobId ≠ .retry intent.id intent.version request.idempotencyKey)

/-! ### What the retry does -/

/-- The world after an accepted retry. -/
def retried (world : World) (intent : PublishingIntent) (actionKey : String) (now : Instant) :
    World :=
  match intent.binding.scheduledUtcAt with
  | none => world.setStatus intent.id .scheduled
  | some scheduledUtcAt =>
      (world.setStatus intent.id .scheduled).enqueue (.retry intent.id intent.version actionKey)
        ⟨intent.id, intent.version, dispatchKeyFor actionKey⟩ (max 0 (scheduledUtcAt - now))

/-- Whether the attempt and the decision that the retry picked let it pass. -/
def passes (intent : PublishingIntent) (request : RetryRequest)
    (attempt : Option PublishingAttempt) (approval : Option PublishingApproval) : Prop :=
  attempt.any (provenFailure request) = true ∧
    approval.any (·.intentVersionAtDecision = intent.version) = true

variable {world : World} {intent : PublishingIntent}

/-- How a retry ends that picked this attempt and this decision. -/
def Ends (world : World) (intent : PublishingIntent) (request : RetryRequest) (now : Instant)
    (attempt : Option PublishingAttempt) (approval : Option PublishingApproval)
    (outcome : Except PublishingError PublishingIntent) (after : World) : Prop :=
  (passes intent request attempt approval →
      outcome = .ok { intent with status := .scheduled } ∧
        after = retried world intent request.idempotencyKey now) ∧
    (¬passes intent request attempt approval → ∃ error, outcome = .error error)

theorem reads_lastAttempt (pid : Pid) (choice : Nat) :
    store.exec pid choice (.findLastAttempt intent.id none) world =
      .ok ⟨pick choice (lastAttempts world intent.id), id, []⟩ := by
  simp [store, exec, lastAttempts]

theorem reads_latestApproval (pid : Pid) (choice : Nat) :
    store.exec pid choice (.findLatestApproval intent.id) world =
      .ok ⟨pick choice (latestApprovals world intent.id), id, []⟩ := rfl

/-- The queue takes the job of the retry, unless it knows its id. -/
theorem completes_enqueue {schedule : Schedule} (sound : ∀ count, schedule.faults count = false)
    (actionKey : String) (now : Instant)
    {Q : Except PublishingError PublishingIntent → Option (Session World Key) → World → Prop}
    (goesOn : Q (.ok { intent with status := .scheduled }) none
      (retried world intent actionKey now)) :
    store.Completes schedule
      (match intent.binding.scheduledUtcAt with
      | some scheduledUtcAt => do
          Queue.add (.retry intent.id intent.version actionKey)
            ⟨intent.id, intent.version, dispatchKeyFor actionKey⟩ (max 0 (scheduledUtcAt - now))
          return { intent with status := .scheduled }
      | none => return { intent with status := .scheduled }) Q none
      (world.setStatus intent.id .scheduled) := by
  unfold retried at goesOn
  cases planned : intent.binding.scheduledUtcAt with
  | none =>
      rw [planned] at goesOn
      exact completes_pure goesOn
  | some scheduledUtcAt =>
      rw [planned] at goesOn
      apply completes_bind
      apply completes_ask_alone sound
      intro choice
      exact ⟨_, rfl, completes_pure goesOn⟩

theorem completes_retryIntent {schedule : Schedule} (sound : ∀ count, schedule.faults count = false)
    {number : Nat} (failure : FailureProven world intent number) {request : RetryRequest}
    (current : request.currentVersion = intent.version) (now : Instant) :
    store.Completes schedule (retryIntent intent.id intent.businessId request now)
      (fun outcome _ after => ∃ first second,
        Ends world intent request now
          (pick (schedule.choices second) (lastAttempts world intent.id))
          (pick (schedule.choices first) (latestApprovals world intent.id)) outcome after)
      none world := by
  unfold retryIntent
  apply completes_bind
  apply completes_closing
  unfold retryFresh
  apply completes_bind
  apply completes_bind
  apply completes_read_open sound rfl fun _ => rfl
  simp only [thenCompletes, Session.fresh, id_eq, failure.stored]
  apply completes_pure
  simp only [thenCompletes]
  apply completes_bind
  apply completes_query_open sound rfl (reads_latestApproval _)
  intro first
  apply completes_bind
  apply completes_query_open sound rfl (reads_lastAttempt _)
  intro second
  simp only [thenCompletes, assertOwnership, assertVersion, current, ne_eq, not_true, if_false]
  apply completes_bind
  apply completes_pure
  apply completes_bind
  apply completes_pure
  simp only [thenCompletes, id_eq, retryableStatuses, failure.failed, List.contains_cons, beq_self_eq_true,
    Bool.true_or, if_true]
  by_cases proven : (pick (schedule.choices second) (lastAttempts world intent.id)).any
      (provenFailure request) = true
  · rw [if_pos proven]
    by_cases approved : (pick (schedule.choices first) (latestApprovals world intent.id)).any
        (·.intentVersionAtDecision = intent.version) = true
    · rw [if_pos approved]
      have free : world.slotTaken { intent with status := .scheduled } = false := by
        have before := failure.slot
        simpa [World.slotTaken, World.occupies, failure.failed] using before
      apply completes_ask_open sound rfl
      intro choice
      refine ⟨_, updateIntent_ok failure.stored free, _, rfl, ?_⟩
      apply completes_enqueue sound
      refine ⟨first, second, fun _ => ⟨rfl, rfl⟩, ?_⟩
      intro failed
      exact absurd ⟨proven, approved⟩ failed
    · rw [if_neg approved]
      refine completes_throw ⟨first, second, ?_, fun _ => ⟨_, rfl⟩⟩
      intro passed
      exact absurd passed.2 approved
  · rw [if_neg proven]
    refine completes_throw ⟨first, second, ?_, fun _ => ⟨_, rfl⟩⟩
    intro passed
    exact absurd passed.1 proven

/-! ### When it is accepted -/

theorem lastAttempts_ne_nil {number : Nat} (failure : FailureProven world intent number) :
    lastAttempts world intent.id ≠ [] := by
  obtain ⟨attempt, newest, -⟩ := failure.newest
  exact maximal_ne_nil (·.attemptSequence) (List.ne_nil_of_mem (mem_of_maximal newest))

theorem latestApprovals_ne_nil {number : Nat} (failure : FailureProven world intent number) :
    latestApprovals world intent.id ≠ [] := by
  obtain ⟨approval, member, sameIntent, -⟩ := failure.approved
  have among : approval ∈ world.approvals.filter (·.intentId = intent.id) :=
    List.mem_filter.mpr ⟨member, decide_eq_true sameIntent⟩
  exact maximal_ne_nil (·.decidedAt) (List.ne_nil_of_mem among)

/-- The job of the retry is the only one that the retry adds. -/
theorem served_retried (actionKey : String) (now : Instant) :
    Served (retried world intent actionKey now) intent ↔
      Served world intent ∨ (intent.binding.scheduledUtcAt.isSome = true ∧
        ∀ job ∈ world.jobs, job.jobId ≠ .retry intent.id intent.version actionKey) := by
  unfold retried
  cases intent.binding.scheduledUtcAt with
  | none =>
      have sameJobs : Served (world.setStatus intent.id .scheduled) intent ↔ Served world intent :=
        Iff.rfl
      simpa using sameJobs
  | some scheduledUtcAt =>
      have served := @served_enqueue (world.setStatus intent.id .scheduled) intent
        (.retry intent.id intent.version actionKey)
        ⟨intent.id, intent.version, dispatchKeyFor actionKey⟩ (max 0 (scheduledUtcAt - now)) rfl rfl
      rw [Option.isSome_some, eq_self_iff_true, true_and]
      exact served

theorem scheduled_retried {number : Nat} (failure : FailureProven world intent number)
    (actionKey : String) (now : Instant) :
    (retried world intent actionKey now).intents.find intent.id =
      some { intent with status := .scheduled } := by
  have changed : (world.setStatus intent.id .scheduled).intents.find intent.id =
      some { intent with status := .scheduled } := by
    dsimp only [World.setStatus, World.changeIntent]
    rw [Table.find_modify_self, failure.stored]
    rfl
  unfold retried World.enqueue
  split
  · exact changed
  · split <;> exact changed

/-- A proven failure can be retried exactly when every attempt with the greatest
sequence is that failure by its own status, every latest decision is about the
current version, and the queue takes the job. -/
theorem retry_requeues_iff {number : Nat} (failure : FailureProven world intent number)
    (actionKey : String) :
    (∀ pid choices now, Requeues (.sound pid choices) now world intent
        ⟨intent.version, number, actionKey⟩) ↔
      Retryable world intent ⟨intent.version, number, actionKey⟩ := by
  have behaves := fun pid choices now =>
    (@completes_retryIntent world intent (.sound pid choices) (fun _ => rfl) number failure
      ⟨intent.version, number, actionKey⟩ rfl now).ends 0
  constructor
  · intro requeues
    have passed : ∀ pid choices now, ∃ first second,
        passes intent ⟨intent.version, number, actionKey⟩
          (pick (choices second) (lastAttempts world intent.id))
          (pick (choices first) (latestApprovals world intent.id)) ∧
        (store.call (.sound pid choices) (retryIntent intent.id intent.businessId
          ⟨intent.version, number, actionKey⟩ now) world).2 = retried world intent actionKey now := by
      intro pid choices now
      obtain ⟨first, second, whenPassed, whenFailed⟩ := behaves pid choices now
      refine ⟨first, second, ?_⟩
      by_contra! incomplete
      obtain ⟨updated, accepted⟩ := (requeues pid choices now).accepted
      by_cases passed : passes intent ⟨intent.version, number, actionKey⟩
          (pick (choices second) (lastAttempts world intent.id))
          (pick (choices first) (latestApprovals world intent.id))
      · exact incomplete passed (whenPassed passed).2
      · obtain ⟨error, thrown⟩ := whenFailed passed
        cases thrown.symm.trans accepted
    refine ⟨?_, ?_, ?_⟩
    · intro attempt member
      obtain ⟨choice, picked⟩ := exists_pick_of_mem member
      obtain ⟨first, second, ⟨proven, -⟩, -⟩ := passed 0 (fun _ => choice) 0
      simpa [picked] using proven
    · intro approval member
      obtain ⟨choice, picked⟩ := exists_pick_of_mem member
      obtain ⟨first, second, ⟨-, approved⟩, -⟩ := passed 0 (fun _ => choice) 0
      simpa [picked] using approved
    · obtain ⟨-, -, -, reached⟩ := passed 0 (fun _ => 0) 0
      have served := (requeues 0 (fun _ => 0) 0).served
      rw [reached] at served
      exact (served_retried actionKey 0).mp served
  · intro retryable pid choices now
    obtain ⟨first, second, whenPassed, -⟩ := behaves pid choices now
    obtain ⟨attempt, pickedAttempt⟩ := exists_pick (choices second) (lastAttempts_ne_nil failure)
    obtain ⟨approval, pickedApproval⟩ :=
      exists_pick (choices first) (latestApprovals_ne_nil failure)
    have proven := retryable.attempts attempt (mem_of_pick pickedAttempt)
    have approved := retryable.approvals approval (mem_of_pick pickedApproval)
    have passed : passes intent ⟨intent.version, number, actionKey⟩
        (pick (choices second) (lastAttempts world intent.id))
        (pick (choices first) (latestApprovals world intent.id)) := by
      rw [pickedAttempt, pickedApproval]
      exact ⟨proven, decide_eq_true approved⟩
    obtain ⟨returned, reached⟩ := whenPassed passed
    refine ⟨⟨_, returned⟩, ?_, ?_⟩
    · refine ⟨{ intent with status := .scheduled }, ?_, rfl⟩
      rw [← scheduled_retried failure actionKey now, ← reached]
      rfl
    · have served := (served_retried actionKey now).mpr retryable.queued
      rw [← reached] at served
      exact served

/-! ### Examples -/

def failedIntent : PublishingIntent := { firstIntent with status := .failed }

def failedAttempt : PublishingAttempt where
  id := 0
  intentId := 0
  intentVersion := 2
  attemptSequence := 1
  status := .failed
  workflowVersion := some "workflow-1"
  providerRequestFingerprint := none
  idempotencyKey := "approve-1::dispatch"
  startedAt := some publicationTime
  finishedAt := some publicationTime
  createdAt := publicationTime

/-- The first dispatch of the first publication was refused. -/
def failedWorld : World :=
  { firstWorld with
    intents := Table.empty.insert failedIntent
    attempts := Table.empty.insert failedAttempt
    jobs := [{ firstJob with state := .completed }] }

theorem failed_publication_requeues :
    FailureProven failedWorld failedIntent 1 ∧
      Requeues (.sound 0 fun _ => 0) publicationTime failedWorld failedIntent ⟨2, 1, "retry-1"⟩ := by
  have failure : FailureProven failedWorld failedIntent 1 := by decide +kernel
  refine ⟨failure, (retry_requeues_iff failure "retry-1").mpr ⟨?_, ?_, ?_⟩ 0 _ publicationTime⟩
  · decide +kernel
  · decide +kernel
  · decide +kernel

/-- n8n leaves the dispatch open, and an administrator resolves it as failed. -/
def resolvedMoves : List (Move Call) :=
  [.issue 5 (.turnJob (.publish 0 2) (some .active))] ++ steps 5 1 ++
  [.issue 6 (.process (.publish 0 2) ⟨0, 2, "approve-1::dispatch"⟩ publicationTime)] ++
  steps 6 16 ++ [.step 6 1] ++ steps 6 6 ++
  [.issue 7 (.resolveUnknown 0 .failed none)] ++ steps 7 6

/-- A failure that an administrator has settled cannot be retried. -/
theorem resolved_failure_not_retryable : ∃ machine,
    Reaches (system runHost) .free World.empty machine ∧
      FailureProven machine.world failedIntent 1 ∧
      ¬Requeues (.sound 8 fun _ => 0) publicationTime machine.world failedIntent
        ⟨2, 1, "retry-1"⟩ := by
  have above : ∀ move ∈ resolvedMoves, 5 ≤ move.pid := by decide
  have played : ((system runHost).play (.idle firstWorld) resolvedMoves).map (fun machine =>
      Decidable.decide (FailureProven machine.world failedIntent 1 ∧
        (store.call (.sound 8 fun _ => 0) (retryIntent 0 2 ⟨2, 1, "retry-1"⟩ publicationTime)
          machine.world).1 = .error (.conflict "PUBLISHING_IDEMPOTENCY_CONFLICT"))) =
        some true := by
    decide +kernel
  obtain ⟨machine, after, reached, observed, sameWorld, -⟩ := firstWorld_rests.resume above played
  obtain ⟨failure, refused⟩ := of_decide_eq_true observed
  refine ⟨machine, reached, sameWorld ▸ failure, ?_⟩
  intro requeues
  obtain ⟨updated, accepted⟩ := requeues.accepted
  rw [sameWorld] at accepted
  cases refused.symm.trans accepted

end MarketMind.Publishing.Intents
