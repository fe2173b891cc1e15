import MarketMind.Transactions.Statements
import MarketMind.Billing.Outbox

/-!
Owns which confirmations the reconciler offers to the queue.

A job keeps its id when it has ended. A pass that meets an event whose job was completed
or failed adds nothing, and no later pass does either.
-/

namespace MarketMind.Billing.Outbox

open MarketMind.Transactions Store

/-- Whether the queue still has to run the job. -/
def isLive : JobState → Bool
  | .waiting | .delayed | .active => true
  | .completed | .failed => false

/-- A job for the event waits or is active. -/
def Served (world : World) (eventId : Uuid) : Prop :=
  ∃ job ∈ world.jobs, job.eventId = eventId ∧ isLive job.state = true

/-- The queue knows no job of the event. -/
def Unqueued (world : World) (eventId : Uuid) : Prop :=
  ∀ job ∈ world.jobs, job.eventId ≠ eventId

instance (world : World) (eventId : Uuid) : Decidable (Served world eventId) := by
  unfold Served
  infer_instance

/-- The world once expired leases have ended. -/
def World.expire (world : World) (now : Instant) : World :=
  world.change (world.events.keysOf (isExpired now)) (.expiry now)

/-- The events that a pass claims when no other transaction holds one. -/
def World.offered (world : World) (now : Instant) : List Uuid :=
  (((world.expire now).due now).take claimLimit).map BillingOutboxRow.id

/-- The world after a pass of the reconciler that nothing interrupts. -/
def World.reconciled (world : World) (pid : Pid) (pass : Uuid) (now : Instant) : World :=
  (store.call (.sound pid fun _ => 0) (reconcile pass now) world).2

/-! ### What the queue does -/

theorem served_of_jobs {left right : World} (same : left.jobs = right.jobs) (eventId : Uuid) :
    (Served left eventId ↔ Served right eventId) ∧
      (Unqueued left eventId ↔ Unqueued right eventId) := by
  simp [Served, Unqueued, same]

/-- An added job serves its event unless the queue knows its id. -/
theorem served_enqueue (world : World) (eventId other : Uuid) :
    (Served (world.enqueue eventId) other ↔
      Served world other ∨ (other = eventId ∧ Unqueued world other)) ∧
    (Unqueued (world.enqueue eventId) other ↔ Unqueued world other ∧ other ≠ eventId) := by
  unfold World.enqueue
  by_cases known : world.jobs.any (·.eventId = eventId) = true
  · rw [if_pos known]
    obtain ⟨job, member, same⟩ := List.any_eq_true.mp known
    have queued : other = eventId → ¬Unqueued world other := by
      rintro rfl unqueued
      exact unqueued job member (of_decide_eq_true same)
    by_cases equal : other = eventId
    · simp [queued equal]
    · simp [equal]
  · rw [if_neg known]
    have absent : Unqueued world eventId := by
      intro job member same
      exact known (List.any_eq_true.mpr ⟨job, member, decide_eq_true same⟩)
    by_cases equal : other = eventId
    · subst equal
      refine ⟨iff_of_true ⟨⟨other, .waiting⟩, ?_, rfl, rfl⟩ (Or.inr ⟨rfl, absent⟩), ?_⟩
      · exact List.mem_append_right _ (List.mem_singleton_self _)
      · simp [Unqueued]
    · have apart : eventId ≠ other := fun same => equal same.symm
      simp [Served, Unqueued, equal, apart, or_imp, forall_and, or_and_right, exists_or]

theorem skipLocked_zero (rows : List BillingOutboxRow) : skipLocked 0 rows = rows := by
  induction rows with
  | nil => rfl
  | cons row rest inductionHypothesis =>
      show row :: skipLocked 0 rest = row :: rest
      rw [inductionHypothesis]

theorem mem_oldestFirst {rows : List BillingOutboxRow} {row : BillingOutboxRow} :
    row ∈ oldestFirst rows ↔ row ∈ rows :=
  (List.perm_insertionSort _ rows).mem_iff

/-- The offered events are different rows of the table, and pending. -/
theorem offered_nodup (world : World) (now : Instant) : (world.offered now).Nodup := by
  have subperm : ((world.expire now).due now).map BillingOutboxRow.id |>.Nodup := by
    refine ((List.perm_insertionSort _ _).map _).nodup_iff.mpr ?_
    exact (world.expire now).events.distinct.sublist (List.filter_sublist.map _)
  exact subperm.sublist ((List.take_sublist _ _).map _)

theorem pending_of_offered {world : World} {now : Instant} {id : Uuid}
    (offered : id ∈ world.offered now) :
    ((world.expire now).events.find id).any (·.state = .pending) = true := by
  obtain ⟨row, taken, rfl⟩ := List.mem_map.mp offered
  have due := mem_oldestFirst.mp (List.mem_of_mem_take taken)
  obtain ⟨member, isDue⟩ := List.mem_filter.mp due
  have found : (world.expire now).events.find row.id = some row := Table.find_of_mem member
  rw [found]
  simp only [Outbox.isDue, decide_eq_true_eq, Bool.decide_and, Bool.and_eq_true] at isDue
  simpa using isDue.1

/-- Nothing is skipped when nothing is locked. -/
theorem exec_lockDue (pid : Pid) (world : World) (now : Instant) :
    store.exec pid 0 (.lockDue now claimLimit) (world.expire now) =
      .ok ⟨world.offered now, fun world => world, (world.offered now).map Key.event⟩ := by
  simp only [store, exec, skipLocked_zero]
  rfl

/-! ### What a pass does -/

section Pass

variable {schedule : Schedule} (sound : ∀ count, schedule.faults count = false) {world : World}

/-- The transaction goes on over `before`: the queue is as it was, and so are the identities
of the rows. -/
structure Claiming (opened : Session World Key) (jobs : List QueuedJob) (world : World) : Prop where
  healthy : opened.doomed = false
  jobs : (opened.pending world).jobs = jobs

include sound

/-- A guarded update inside the claiming transaction. -/
theorem completes_claimPending {opened : Session World Key} {jobs : List QueuedJob}
    {id : Uuid} {leaseOwner : LeaseOwner} {leaseExpiresAt : Instant}
    (claiming : Claiming opened jobs world)
    (pending : ((opened.pending world).events.find id).any (·.state = .pending) = true) :
    store.Completes schedule (ask (.claimPending id leaseOwner leaseExpiresAt))
      (fun outcome session after => outcome = .ok true ∧ after = world ∧
        ∃ later, session = some later ∧ Claiming later jobs world ∧
          ∀ other, ((later.pending world).events.find other) =
            ((opened.pending world).events.find other).map fun row =>
              if other = id then row.claim leaseOwner leaseExpiresAt else row)
      (some opened) world := by
  refine completes_ask_open sound claiming.healthy fun choice => ⟨_, if_pos pending, rfl, rfl, _, rfl,
    ⟨claiming.healthy, claiming.jobs⟩, fun other => ?_⟩
  show ((opened.pending world).change [id] _).events.find other = _
  rw [find_change]
  simp

theorem completes_claimEach {ids : List Uuid} {opened : Session World Key} {jobs : List QueuedJob}
    {leaseOwner : LeaseOwner} {leaseExpiresAt : Instant} (distinct : ids.Nodup)
    (claiming : Claiming opened jobs world)
    (pending : ∀ id ∈ ids, ((opened.pending world).events.find id).any (·.state = .pending) = true) :
    store.Completes schedule (claimEach leaseOwner leaseExpiresAt ids)
      (fun outcome session after => outcome = .ok ids ∧ after = world ∧
        ∃ later, session = some later ∧ Claiming later jobs world ∧
          ∀ id, ((later.pending world).events.find id).isSome =
            ((opened.pending world).events.find id).isSome)
      (some opened) world := by
  induction ids generalizing opened with
  | nil => exact completes_pure ⟨rfl, rfl, opened, rfl, claiming, fun _ => rfl⟩
  | cons id rest inductionHypothesis =>
      rw [List.nodup_cons] at distinct
      unfold claimEach
      apply completes_bind
      refine (completes_claimPending sound claiming (pending id List.mem_cons_self)).mono ?_
      rintro _ _ _ ⟨rfl, rfl, later, rfl, claimingLater, changed⟩
      apply completes_bind
      refine (inductionHypothesis distinct.2 claimingLater fun other member => ?_).mono ?_
      · have apart : other ≠ id := by
          rintro rfl
          exact distinct.1 member
        have still := pending other (List.mem_cons_of_mem _ member)
        rw [changed other]
        simpa [apart] using still
      · rintro _ _ _ ⟨rfl, rfl, last, rfl, claimingLast, known⟩
        refine completes_pure ⟨rfl, rfl, last, rfl, claimingLast, fun other => ?_⟩
        rw [known other, changed other, Option.isSome_map]

/-- What the claiming transaction comes to: the events it picked, and the queue as it was. -/
theorem completes_claimDueEvents {leaseOwner : LeaseOwner} {now : Instant}
    (unlocked : ∀ count, schedule.choices count = 0) :
    store.Completes schedule (claimDueEvents leaseOwner now)
      (fun outcome session after => ∃ events, outcome = .ok events ∧ session = none ∧
        after.jobs = world.jobs ∧ ∀ id, id ∈ events.map BillingOutboxRow.id ↔ id ∈ world.offered now)
      none world := by
  apply completes_closing
  apply completes_bind
  refine completes_ask_open sound rfl fun choice => ⟨_, rfl, ?_⟩
  apply completes_bind
  refine completes_statement_open sound rfl fun count => ?_
  have locks := exec_lockDue schedule.pid world now
  unfold World.expire at locks
  simp only [unlocked, Session.extend, Session.fresh, id_eq, locks, thenCompletes]
  by_cases idle : (world.offered now).isEmpty = true
  · rw [if_pos idle]
    refine completes_pure ⟨_, rfl, [], rfl, rfl, rfl, fun id => ?_⟩
    rw [List.isEmpty_iff.mp idle]
    simp
  · rw [if_neg idle]
    apply completes_bind
    refine (completes_claimEach sound (offered_nodup world now) ⟨rfl, rfl⟩
      fun id member => pending_of_offered member).mono ?_
    rintro _ _ world ⟨rfl, rfl, later, rfl, claiming, known⟩
    refine completes_ask_open sound claiming.healthy fun choice => ⟨_, rfl, _, rfl, _, rfl, rfl, ?_, ?_⟩
    · rw [if_neg (by simp [Session.extend, claiming.healthy])]
      exact claiming.jobs
    · intro id
      have found : ∀ {row : BillingOutboxRow}, row ∈ oldestFirst ((later.pending world).events.rows.filter
          fun row => row.id ∈ world.offered now) ↔ row ∈ (later.pending world).events.rows ∧
            row.id ∈ world.offered now := by
        intro row
        rw [mem_oldestFirst, List.mem_filter, decide_eq_true_iff]
      rw [List.mem_map]
      constructor
      · rintro ⟨row, member, rfl⟩
        exact (found.mp member).2
      · intro member
        have isSome : ((later.pending world).events.find id).isSome = true := by
          rw [known id]
          exact Option.isSome_of_any (pending_of_offered member)
        obtain ⟨row, stored⟩ := Option.isSome_iff_exists.mp isSome
        have same : row.id = id := Table.key_of_find stored
        exact ⟨row, found.mpr ⟨Table.mem_of_find stored, same ▸ member⟩, same⟩

/-- Offering one claimed event adds its job. -/
theorem completes_offer {leaseOwner : LeaseOwner} {now : Instant} (event : BillingOutboxRow) :
    store.Completes schedule (offer leaseOwner now event)
      (fun outcome session after => outcome = .ok () ∧ session = none ∧
        after.jobs = (world.enqueue event.id).jobs) none world := by
  apply completes_tryCatch
  apply completes_bind
  refine completes_ask_alone sound fun choice => ⟨_, rfl, ?_⟩
  apply completes_bind
  apply completes_ask_alone sound
  intro choice
  by_cases held : ((world.enqueue event.id).events.find event.id).any (·.heldBy leaseOwner) = true
  · exact ⟨_, if_pos held, completes_pure ⟨rfl, rfl, rfl⟩⟩
  · exact ⟨_, if_neg held, completes_pure ⟨rfl, rfl, rfl⟩⟩

theorem completes_offerEach {leaseOwner : LeaseOwner} {now : Instant}
    (events : List BillingOutboxRow) :
    store.Completes schedule (offerEach leaseOwner now events)
      (fun outcome session after => outcome = .ok () ∧ session = none ∧ ∀ id,
        Served after id ↔ Served world id ∨
          (id ∈ events.map BillingOutboxRow.id ∧ Unqueued world id)) none world := by
  induction events generalizing world with
  | nil => exact completes_pure ⟨rfl, rfl, fun id => by simp⟩
  | cons event rest inductionHypothesis =>
      unfold offerEach
      apply completes_bind
      refine (completes_offer sound event).mono ?_
      rintro _ _ middle ⟨rfl, rfl, sameJobs⟩
      refine inductionHypothesis.mono ?_
      rintro _ _ after ⟨rfl, rfl, served⟩
      refine ⟨rfl, rfl, fun id => ?_⟩
      obtain ⟨servedMiddle, unqueuedMiddle⟩ := served_of_jobs sameJobs id
      obtain ⟨servedOne, unqueuedOne⟩ := served_enqueue world event.id id
      rw [served, servedMiddle, unqueuedMiddle, servedOne, unqueuedOne]
      by_cases same : id = event.id
      · simp [same]
      · simp [same]

theorem completes_reconcile (unlocked : ∀ count, schedule.choices count = 0) (pass : Uuid)
    (now : Instant) :
    store.Completes schedule (reconcile pass now)
      (fun outcome session after => outcome = .ok () ∧ session = none ∧ ∀ id,
        Served after id ↔ Served world id ∨ (id ∈ world.offered now ∧ Unqueued world id))
      none world := by
  unfold reconcile
  apply completes_bind
  refine (completes_claimDueEvents sound unlocked).mono ?_
  rintro _ _ middle ⟨events, rfl, rfl, sameJobs, offered⟩
  refine (completes_offerEach sound events).mono ?_
  rintro _ _ after ⟨rfl, rfl, served⟩
  refine ⟨rfl, rfl, fun id => ?_⟩
  rw [served, offered, (served_of_jobs sameJobs id).1, (served_of_jobs sameJobs id).2]

end Pass

/-- A pass leaves a live job for an event exactly when there was one, or the pass claims the
event and the queue knows no job of it. -/
theorem served_reconciled (world : World) (pid : Pid) (pass : Uuid) (now : Instant) (id : Uuid) :
    Served (world.reconciled pid pass now) id ↔
      Served world id ∨ (id ∈ world.offered now ∧ Unqueued world id) := by
  have completed : store.Completes (.sound pid fun _ => 0) (reconcile pass now) _ none world :=
    completes_reconcile (fun _ => rfl) (fun _ => rfl) pass now
  exact (completed.ends 0).2.2 id

/-! ### When an event is offered no more -/

/-- Some pass at this time would find the event due. -/
def Offered (now : Instant) (row : BillingOutboxRow) : Prop :=
  isDue now row = true ∨ isExpired now row = true

/-- The event was sent, or has failed as often as the outbox tries. -/
def Concluded (row : BillingOutboxRow) : Prop :=
  row.state = .sent ∨ (row.state = .failed ∧ maxAttempts ≤ row.attempts)

/-- A row as the services leave it: a claimed row has a lease that ends, and a failed one
has had its attempts. -/
structure WellKept (row : BillingOutboxRow) : Prop where
  leased : row.state = .processing → row.leaseExpiresAt.isSome = true
  failed : row.state = .failed → maxAttempts ≤ row.attempts

/-- Such a row is concluded, or offered from some time on. -/
theorem WellKept.offered {row : BillingOutboxRow} (kept : WellKept row) :
    Concluded row ∨ ∃ since, ∀ now, since ≤ now → Offered now row := by
  cases state : row.state with
  | pending =>
      refine .inr ⟨row.nextAttemptAt.getD 0, fun now late => .inl ?_⟩
      cases next : row.nextAttemptAt with
      | none => simp [isDue, state, next]
      | some time =>
          rw [next] at late
          simpa [isDue, state, next] using late
  | processing =>
      obtain ⟨expiry, leased⟩ := Option.isSome_iff_exists.mp (kept.leased state)
      refine .inr ⟨expiry + 1, fun now late => .inr ?_⟩
      have past : expiry < now := Int.lt_iff_add_one_le.mpr late
      simpa [isExpired, state, leased] using past
  | sent => exact .inl (.inl state)
  | failed => exact .inl (.inr ⟨state, kept.failed state⟩)

/-- The rows of the outbox are kept so. -/
def OutboxKept (world : World) : Prop := ∀ row ∈ world.events.rows, WellKept row

/-- What the statements of the services record: failures with their attempts. -/
def Records : Statement → Prop
  | .createEvent row => WellKept row
  | .recordFailure _ _ state attempts _ =>
      state = .pending ∨ (state = .failed ∧ maxAttempts ≤ attempts)
  | _ => True

theorem outboxKept_change {world : World} {ids : List Uuid} {change : Change}
    (kept : OutboxKept world) (keeps : ∀ row, WellKept row → WellKept (change.apply row)) :
    OutboxKept (world.change ids change) := by
  intro row member
  obtain ⟨old, oldMember, rfl⟩ := List.mem_map.mp member
  split
  · exact keeps old (kept old oldMember)
  · exact kept old oldMember

theorem outboxKept_updateMany {view base : World} {id : Uuid} {guard : BillingOutboxRow → Bool}
    {change : Change} {effect : Effect World Key Bool}
    (executed : updateMany view id guard change = .ok effect) (kept : OutboxKept base)
    (keeps : ∀ row, WellKept row → WellKept (change.apply row)) :
    OutboxKept (effect.write base) := by
  rcases updateMany_cases executed with ⟨row, -, -, rfl⟩ | rfl
  · exact outboxKept_change kept keeps
  · exact kept

/-- No statement breaks the rows, whatever world its write lands in. -/
theorem exec_kept {pid : Pid} {choice : Nat} {asked : Statement} {view base : World}
    {effect : Effect World Key asked.Reply} (records : Records asked)
    (executed : exec pid choice asked view = .ok effect) (kept : OutboxKept base) :
    OutboxKept (effect.write base) := by
  cases asked <;> simp only [exec] at executed
  case createEvent row =>
    obtain ⟨-, executed⟩ := ok_of_unless executed
    cases executed
    intro other member
    rcases Table.mem_insert member with old | rfl
    · exact kept other old
    · exact ⟨records.leased, records.failed⟩
  case expireLeases now =>
    cases executed
    exact outboxKept_change kept fun row _ => ⟨by rintro ⟨⟩, by rintro ⟨⟩⟩
  case claimPending =>
    exact outboxKept_updateMany executed kept fun row _ => ⟨fun _ => rfl, by rintro ⟨⟩⟩
  case releaseClaim =>
    exact outboxKept_updateMany executed kept fun row _ => ⟨by rintro ⟨⟩, by rintro ⟨⟩⟩
  case markDispatched =>
    exact outboxKept_updateMany executed kept fun row _ => ⟨by rintro ⟨⟩, by rintro ⟨⟩⟩
  case recordFailure id leaseOwner state attempts nextAttemptAt =>
    refine outboxKept_updateMany executed kept fun row _ => ?_
    rcases records with rfl | ⟨rfl, enough⟩
    · exact ⟨by rintro ⟨⟩, by rintro ⟨⟩⟩
    · exact ⟨by rintro ⟨⟩, fun _ => enough⟩
  case sendMail mail =>
    obtain ⟨-, executed⟩ := ok_of_when executed
    cases executed
    exact kept
  case addJob eventId =>
    cases executed
    intro row member
    have same : (base.enqueue eventId).events = base.events := by
      unfold World.enqueue
      split <;> rfl
    exact kept row (same ▸ member)
  all_goals
    cases executed
    exact kept

open Program in
theorem uses_releaseForRetry (eventId : Uuid) (leaseOwner : LeaseOwner) (now : Instant) :
    (releaseForRetry eventId leaseOwner now).Uses Records := by
  refine uses_bind (uses_ask trivial) fun found => ?_
  cases found with
  | none => exact uses_pure _
  | some current =>
      dsimp only
      by_cases terminal : maxAttempts ≤ current + 1
      · rw [if_pos terminal]
        exact uses_ask (.inr ⟨rfl, terminal⟩)
      · rw [if_neg terminal]
        exact uses_ask (.inl rfl)

open Program in
theorem uses_reconcile (pass : Uuid) (now : Instant) : (reconcile pass now).Uses Records := by
  have claims : ∀ ids leaseOwner leaseExpiresAt,
      (claimEach leaseOwner leaseExpiresAt ids).Uses Records := by
    intro ids leaseOwner leaseExpiresAt
    induction ids with
    | nil => exact uses_pure _
    | cons id rest inductionHypothesis =>
        exact uses_bind (uses_ask trivial) fun _ =>
          uses_bind inductionHypothesis fun _ => uses_pure _
  have offers : ∀ events leaseOwner, (offerEach leaseOwner now events).Uses Records := by
    intro events leaseOwner
    induction events with
    | nil => exact uses_pure _
    | cons event rest inductionHypothesis =>
        refine uses_bind (uses_tryCatch ?_ ?_) fun _ => inductionHypothesis
        · exact uses_bind (uses_ask trivial) fun _ => uses_bind (uses_ask trivial) fun _ => uses_pure _
        · intro _
          exact uses_bind (uses_releaseForRetry _ _ _) fun _ => uses_pure _
  refine uses_bind (uses_transaction ?_) fun events => offers events _
  refine uses_bind (uses_ask trivial) fun _ => uses_bind (uses_ask trivial) fun ids => ?_
  by_cases idle : ids.isEmpty = true
  · rw [if_pos idle]
    exact uses_pure _
  · rw [if_neg idle]
    exact uses_bind (claims _ _ _) fun _ => uses_ask trivial

open Program in
theorem uses_process (eventId : Uuid) (now : Instant) : (process eventId now).Uses Records := by
  refine uses_bind (uses_bind (uses_ask trivial) fun claimed => ?_) fun event => ?_
  · cases claimed with
    | true => exact uses_ask trivial
    | false => exact uses_pure _
  · cases event with
    | none => exact uses_pure _
    | some event =>
        refine uses_tryCatch (uses_bind (uses_bind (uses_ask trivial) fun owner => ?_) fun _ =>
          uses_bind (uses_ask trivial) fun _ => uses_pure _) fun error =>
            uses_bind (uses_releaseForRetry _ _ _) fun _ => uses_throw _
        cases owner with
        | none => exact uses_throw _
        | some ownerUserId => exact uses_ask trivial

theorem uses_program (call : Call) : call.program.Uses Records := by
  cases call with
  | reconcile pass now => exact uses_reconcile pass now
  | process eventId now => exact uses_process eventId now
  | turnJob | openAccount => exact Program.uses_ask trivial
  | confirmPayment => exact Program.uses_ask ⟨nofun, nofun⟩

/-- The rows are kept so in every state that the services reach. -/
theorem outboxKept_of_reaches {machine : Machine outbox World Key Call}
    (reached : Reaches system .free World.empty machine) : OutboxKept machine.world := by
  refine @kept_of_reaches _ _ _ _ _ system .free (fun _ => Records) OutboxKept _ machine ?_
    (fun call _ => uses_program call) reached ?_
  · intro pid call choice asked view effect records _ executed base kept
    exact @exec_kept pid choice asked view base effect records executed kept
  · intro row member
    cases member

/-! ### Confirmations are kept -/

/-- The next pass leaves a job for the event that waits or is active. -/
def Reoffers (world : World) (now : Instant) (event : BillingOutboxRow) : Prop :=
  ∀ pid pass, Served (world.reconciled pid pass now) event.id

/-- The call executes its next instructions. -/
def steps (pid : Pid) (count : Nat) : List (Move Call) := List.replicate count (.step pid 0)

/-- A payment is confirmed, and a pass hands its event to the queue. -/
def offeredMoves : List (Move Call) :=
  [.issue 0 (.openAccount 8)] ++ steps 0 1 ++
  [.issue 1 (.confirmPayment 0 "paymob:1" ⟨none, none, none, none, none, none, none, none⟩ 0)] ++
  steps 1 1 ++ [.issue 2 (.reconcile 0 0)] ++ steps 2 8

/-- The queue hands the job to a worker, whose mail the provider refuses. -/
def refusedMoves (turn attempt : Pid) : List (Move Call) :=
  [.issue turn (.turnJob 0 .active)] ++ steps turn 1 ++
  [.issue attempt (.process 0 0)] ++ steps attempt 3 ++ [.step attempt 1] ++ steps attempt 2

/-- The job has used up its three attempts. -/
def exhaustedMoves : List (Move Call) :=
  offeredMoves ++ refusedMoves 3 4 ++ refusedMoves 5 6 ++ refusedMoves 7 8 ++
  [.issue 9 (.turnJob 0 .failed)] ++ steps 9 1

end MarketMind.Billing.Outbox
