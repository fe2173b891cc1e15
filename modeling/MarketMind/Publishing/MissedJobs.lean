import MarketMind.Transactions.Serial
import MarketMind.Publishing.System

/-!
Owns which overdue publications the sweep for missed jobs brings back.

The sweep takes an intent with an attempt, or with a finished job under its first
job id, to be in good hands; a retried intent whose retry job was lost is neither
dispatched nor recovered.
-/

namespace MarketMind.Publishing.Reconciliation

open MarketMind.Transactions Store

/-- Whether the queue still has to run the job. -/
def isLive : JobState → Bool
  | .waiting | .delayed | .active => true
  | .completed | .failed => false

/-- A job in the queue that dispatches the current version of the intent. -/
def Served (world : World) (intent : PublishingIntent) : Prop :=
  ∃ job ∈ world.jobs, isLive job.state = true ∧ job.data.intentId = intent.id ∧
    job.data.version = intent.version

/-- What the sweep looks for: no attempt under the version, no job under its id. -/
def Unattempted (world : World) (intent : PublishingIntent) : Prop :=
  (∀ attempt ∈ world.attempts.rows,
      ¬(attempt.intentId = intent.id ∧ attempt.intentVersion = intent.version)) ∧
    ∀ job ∈ world.jobs, job.jobId ≠ .publish intent.id intent.version

instance (world : World) (intent : PublishingIntent) : Decidable (Served world intent) := by
  unfold Served
  infer_instance

instance (world : World) (intent : PublishingIntent) : Decidable (Unattempted world intent) := by
  unfold Unattempted
  infer_instance

/-- The scheduled intents whose time has passed. -/
def overdue (now : Instant) (world : World) : List PublishingIntent :=
  world.intents.rows.filter fun row =>
    row.status = .scheduled ∧ row.binding.scheduledUtcAt.any (· < now)

def recoveryJob (intent : PublishingIntent) : QueuedJob where
  jobId := .publish intent.id intent.version
  data := ⟨intent.id, intent.version, recoveryKey intent.id intent.version⟩
  state := .waiting

/-- The world after the sweep has looked at the intent. -/
def recoverOne (world : World) (intent : PublishingIntent) : World :=
  if Unattempted world intent then { world with jobs := world.jobs ++ [recoveryJob intent] }
  else world

/-- A job for the intent serves it, unless the queue knows the id of the job. -/
theorem served_enqueue {world : World} {intent : PublishingIntent} {jobId : JobId}
    {data : DispatchJob} {delay : Int} (serves : data.intentId = intent.id)
    (current : data.version = intent.version) :
    Served (world.enqueue jobId data delay) intent ↔
      Served world intent ∨ ∀ job ∈ world.jobs, job.jobId ≠ jobId := by
  unfold World.enqueue
  by_cases known : world.jobs.any (·.jobId = jobId) = true
  · rw [if_pos known, List.any_eq_true] at *
    obtain ⟨job, member, same⟩ := known
    constructor
    · exact Or.inl
    · rintro (served | unused)
      · exact served
      · exact absurd (of_decide_eq_true same) (unused job member)
  · rw [if_neg known]
    refine iff_of_true ⟨⟨jobId, data, if 0 < delay then .delayed else .waiting⟩, ?_, ?_, serves,
      current⟩ (Or.inr ?_)
    · simp
    · dsimp only
      split <;> rfl
    · intro job member same
      exact known (List.any_eq_true.mpr ⟨job, member, decide_eq_true same⟩)

/-! ### What the sweep does -/

variable {schedule : Schedule} {world : World}

/-- The postcondition of a step of the sweep that ends in `after`. -/
def EndsIn (after : World) (outcome : Except PublishingError Unit)
    (session : Option (Session World Key)) (reached : World) : Prop :=
  outcome = .ok () ∧ session = none ∧ reached = after

theorem completes_recoverMissedJob (sound : ∀ count, schedule.faults count = false)
    (intent : PublishingIntent) :
    store.Completes schedule (recoverMissedJob intent) (EndsIn (recoverOne world intent)) none
      world := by
  unfold recoverMissedJob
  apply completes_bind
  apply completes_read_alone sound fun _ => rfl
  simp only [thenCompletes]
  have counted : (world.attempts.rows.filter fun row =>
      row.intentId = intent.id ∧ row.intentVersion = intent.version).length = 0 ↔
      ∀ attempt ∈ world.attempts.rows,
        ¬(attempt.intentId = intent.id ∧ attempt.intentVersion = intent.version) := by
    simp [List.filter_eq_nil_iff]
  by_cases zero : (world.attempts.rows.filter fun row =>
      row.intentId = intent.id ∧ row.intentVersion = intent.version).length = 0
  · rw [if_pos zero]
    apply completes_bind
    apply completes_read_alone sound fun _ => rfl
    simp only [thenCompletes]
    cases found : world.jobs.find? (·.jobId = .publish intent.id intent.version) with
    | some job =>
        have taken : ¬Unattempted world intent := by
          intro unattempted
          have sameId : job.jobId = .publish intent.id intent.version := by
            simpa using List.find?_some found
          exact unattempted.2 job (List.mem_of_find?_eq_some found) sameId
        refine completes_pure ⟨rfl, rfl, ?_⟩
        rw [recoverOne, if_neg taken]
    | none =>
        have unused : ∀ job ∈ world.jobs, job.jobId ≠ .publish intent.id intent.version := by
          intro job member sameId
          simpa [sameId] using List.find?_eq_none.mp found job member
        have absent : world.jobs.any (·.jobId = .publish intent.id intent.version) = false := by
          rw [List.any_eq_false]
          intro job member
          simpa using unused job member
        have unattempted : Unattempted world intent := ⟨counted.mp zero, unused⟩
        apply completes_ask_alone sound
        intro choice
        refine ⟨_, rfl, rfl, rfl, ?_⟩
        rw [recoverOne, if_pos unattempted]
        simp [World.enqueue, absent, recoveryJob]
  · rw [if_neg zero]
    refine completes_pure ⟨rfl, rfl, ?_⟩
    rw [recoverOne, if_neg fun unattempted => zero (counted.mpr unattempted.1)]

theorem completes_recoverAll (sound : ∀ count, schedule.faults count = false)
    (intents : List PublishingIntent) :
    store.Completes schedule (recoverAll intents) (EndsIn (intents.foldl recoverOne world)) none
      world := by
  induction intents generalizing world with
  | nil => exact completes_pure ⟨rfl, rfl, rfl⟩
  | cons intent rest inductionHypothesis =>
      unfold recoverAll
      apply completes_bind
      refine (completes_recoverMissedJob sound intent).mono ?_
      rintro outcome session after ⟨rfl, rfl, rfl⟩
      exact inductionHypothesis

theorem completes_recoverMissedJobs (sound : ∀ count, schedule.faults count = false)
    (now : Instant) :
    store.Completes schedule (recoverMissedJobs now)
      (EndsIn ((overdue now world).foldl recoverOne world)) none world := by
  unfold recoverMissedJobs
  apply completes_bind
  apply completes_read_alone sound fun _ => rfl
  exact completes_recoverAll sound _

/-! ### Which intents have a job afterwards -/

theorem recoverOne_intents (intent : PublishingIntent) :
    (recoverOne world intent).intents = world.intents ∧
      (recoverOne world intent).attempts = world.attempts := by
  unfold recoverOne
  split <;> exact ⟨rfl, rfl⟩

/-- The sweep serves the intent that it looks at, if it can. -/
theorem served_recoverOne_self (intent : PublishingIntent) :
    Served (recoverOne world intent) intent ↔ Served world intent ∨ Unattempted world intent := by
  unfold recoverOne
  by_cases unattempted : Unattempted world intent
  · rw [if_pos unattempted]
    refine iff_of_true ⟨recoveryJob intent, ?_, rfl, rfl, rfl⟩ (Or.inr unattempted)
    simp
  · rw [if_neg unattempted]
    simp [unattempted]

/-- It does nothing for another intent. -/
theorem served_recoverOne_of_ne {intent other : PublishingIntent} (apart : other.id ≠ intent.id) :
    (Served (recoverOne world intent) other ↔ Served world other) ∧
      (Unattempted (recoverOne world intent) other ↔ Unattempted world other) := by
  unfold recoverOne
  by_cases unattempted : Unattempted world intent
  · rw [if_pos unattempted]
    constructor
    · simp [Served, recoveryJob, or_and_right, exists_or, apart.symm]
    · simp [Unattempted, recoveryJob, or_imp, forall_and, apart.symm]
  · rw [if_neg unattempted]
    exact ⟨Iff.rfl, Iff.rfl⟩

theorem served_foldl_of_ne {intents : List PublishingIntent} {other : PublishingIntent}
    (apart : ∀ intent ∈ intents, other.id ≠ intent.id) :
    Served (intents.foldl recoverOne world) other ↔ Served world other := by
  induction intents generalizing world with
  | nil => exact Iff.rfl
  | cons intent rest inductionHypothesis =>
      rw [List.foldl_cons,
        inductionHypothesis fun next member => apart next (List.mem_cons_of_mem _ member),
        (served_recoverOne_of_ne (apart intent List.mem_cons_self)).1]

/-- The sweep serves every intent that it can. -/
theorem served_foldl {intents : List PublishingIntent} (distinct : (intents.map (·.id)).Nodup)
    {other : PublishingIntent} (member : other ∈ intents) :
    Served (intents.foldl recoverOne world) other ↔
      Served world other ∨ Unattempted world other := by
  induction intents generalizing world with
  | nil => cases member
  | cons intent rest inductionHypothesis =>
      rw [List.map_cons, List.nodup_cons] at distinct
      obtain ⟨fresh, distinct⟩ := distinct
      rw [List.foldl_cons]
      rcases List.mem_cons.mp member with rfl | inRest
      · rw [served_foldl_of_ne, served_recoverOne_self]
        intro next nextInRest same
        exact fresh (same ▸ List.mem_map_of_mem nextInRest)
      · have apart : other.id ≠ intent.id := by
          intro same
          exact fresh (same ▸ List.mem_map_of_mem inRest)
        obtain ⟨sameServed, sameUnattempted⟩ := @served_recoverOne_of_ne world _ _ apart
        rw [inductionHypothesis distinct inRest, sameServed, sameUnattempted]

theorem foldl_intents (intents : List PublishingIntent) :
    (intents.foldl recoverOne world).intents = world.intents := by
  induction intents generalizing world with
  | nil => rfl
  | cons intent rest inductionHypothesis =>
      rw [List.foldl_cons, inductionHypothesis, (recoverOne_intents intent).1]

/-- The sweep, run on this world, returns and leaves no overdue publication without
a job that dispatches it. -/
def Recovers (pid : Pid) (choices : Nat → Nat) (now : Instant) (world : World) : Prop :=
  (store.call (.sound pid choices) (recoverMissedJobs now) world).1 = .ok () ∧
    ∀ intent ∈ overdue now (store.call (.sound pid choices) (recoverMissedJobs now) world).2,
      Served (store.call (.sound pid choices) (recoverMissedJobs now) world).2 intent

instance (pid : Pid) (choices : Nat → Nat) (now : Instant) (world : World) :
    Decidable (Recovers pid choices now world) := by
  unfold Recovers
  infer_instance

/-- It does so exactly when every overdue publication had such a job before, or
nobody had attempted its version yet. -/
theorem recovers_iff (pid : Pid) (choices : Nat → Nat) (now : Instant) (world : World) :
    Recovers pid choices now world ↔
      ∀ intent ∈ overdue now world, Served world intent ∨ Unattempted world intent := by
  have completed : store.Completes (.sound pid choices) (recoverMissedJobs now)
      (EndsIn ((overdue now world).foldl recoverOne world)) none world :=
    completes_recoverMissedJobs (fun _ => rfl) now
  obtain ⟨returned, -, reached⟩ := completed.ends 0
  unfold Recovers
  dsimp only [Store.call]
  rw [reached, and_iff_right returned]
  have sameOverdue : overdue now ((overdue now world).foldl recoverOne world) =
      overdue now world := by
    rw [overdue, foldl_intents, overdue]
  have distinct : ((overdue now world).map (·.id)).Nodup :=
    world.intents.distinct.sublist (List.filter_sublist.map _)
  rw [sameOverdue]
  refine forall₂_congr fun intent member => ?_
  exact served_foldl distinct member

/-- n8n refuses the dispatch, the owner retries, and the queue loses the retry job. -/
def strandedMoves : List (Move Call) :=
  [.issue 5 (.turnJob (.publish 0 2) (some .active))] ++ steps 5 1 ++
  [.issue 6 (.process (.publish 0 2) ⟨0, 2, "approve-1::dispatch"⟩ publicationTime)] ++
  steps 6 16 ++ [.step 6 2] ++ steps 6 6 ++
  [.issue 7 (.turnJob (.publish 0 2) (some .completed))] ++ steps 7 1 ++
  [.issue 8 (.retryIntent 0 2 ⟨2, 1, "retry-1"⟩ publicationTime)] ++ steps 8 7 ++
  [.issue 9 (.turnJob (.retry 0 2 "retry-1") none)] ++ steps 9 1

/-- A retried publication whose job was lost is never recovered. -/
theorem lost_retry_stranded : ∃ machine,
    Reaches (system runHost) .free World.empty machine ∧
      ¬Recovers 10 (fun _ => 0) (publicationTime + 1) machine.world := by
  have above : ∀ move ∈ strandedMoves, 5 ≤ move.pid := by decide
  have played : ((system runHost).play (.idle firstWorld) strandedMoves).map (fun machine =>
      decide (Recovers 10 (fun _ => 0) (publicationTime + 1) machine.world)) = some false := by
    decide +kernel
  obtain ⟨machine, after, reached, stranded, sameWorld, -⟩ := firstWorld_rests.resume above played
  refine ⟨machine, reached, ?_⟩
  rw [sameWorld]
  exact of_decide_eq_false stranded

end MarketMind.Publishing.Reconciliation
