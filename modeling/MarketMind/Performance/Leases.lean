import MarketMind.Performance.Collection
import MarketMind.Transactions.Onward

/-!
Owns what a lost lease means: a lease that is gone never comes back, and the worker of its job
changes no window any more.

Does not own what a worker does under its lease.
-/

namespace MarketMind.Performance.Sync

open MarketMind.Transactions
open MarketMind.Transactions.Program (uses_anything uses_bind uses_of_asks uses_transaction
  uses_tryCatch)
open Store (Asks asks_ask asks_bind asks_pure asks_throw)

/-- The owner holds the lease of the window. -/
def World.Leases (world : World) (id : Uuid) (leaseOwner : LeaseOwner) : Prop :=
  ∃ row, world.windows.find id = some row ∧ row.leasedBy leaseOwner = true

/-! ### What a statement does to leases -/

section Writes

variable {base : World} {ids : List Uuid} {allowed : SyncWindow → Bool} {change : Change}
  {id : Uuid} {leaseOwner : LeaseOwner}

theorem leases_of_changeWindows
    (before : ∀ row, allowed row = true → (change.apply row).leasedBy leaseOwner = true →
      row.leasedBy leaseOwner = true)
    (leases : (base.changeWindows ids allowed change).Leases id leaseOwner) :
    base.Leases id leaseOwner := by
  obtain ⟨row, found, leased⟩ := leases
  rw [World.find_changeWindows, Option.map_eq_some_iff] at found
  obtain ⟨old, known, rfl⟩ := found
  refine ⟨old, known, ?_⟩
  split at leased
  · next hit => exact before old (Bool.and_eq_true_iff.mp hit).2 leased
  · exact leased

theorem leases_of_addWindow {identity : WindowIdentity}
    (leases : (base.addWindow identity.queued).Leases id leaseOwner) :
    base.Leases id leaseOwner := by
  obtain ⟨row, found, leased⟩ := leases
  rcases Table.of_find_insertUnless found with known | ⟨rfl, -⟩
  · exact ⟨row, known, leased⟩
  · simp [SyncWindow.leasedBy, WindowIdentity.queued] at leased

/-- A write under a lease that is gone. -/
theorem changeWindows_unleased (within : ∀ other ∈ ids, other = id)
    (gone : ¬base.Leases id leaseOwner) :
    (base.changeWindows ids (·.leasedBy leaseOwner) change).windows = base.windows := by
  refine Table.eq_of_rows ((List.map_congr_left fun row member => ?_).trans (List.map_id _))
  refine if_neg fun hit => gone ?_
  obtain ⟨isOne, leased⟩ := Bool.and_eq_true_iff.mp hit
  have found := Table.find_of_mem member
  rw [show Keyed.key row = id from within row.id (of_decide_eq_true isOne)] at found
  exact ⟨row, found, leased⟩

end Writes

/-! ### Leases do not come back -/

/-- Nobody gets a lease whose owner was drawn before. -/
structure Fades (before after : World) : Prop where
  drawn : before.drawn ≤ after.drawn
  leases : ∀ id leaseOwner, leaseOwner < before.drawn → after.Leases id leaseOwner →
    before.Leases id leaseOwner

theorem fades_refl (world : World) : Fades world world := ⟨le_rfl, fun _ _ _ leases => leases⟩

theorem fades_trans (first second third : World) (left : Fades first second)
    (right : Fades second third) : Fades first third where
  drawn := left.drawn.trans right.drawn
  leases id leaseOwner isDrawn leases :=
    left.leases id leaseOwner isDrawn
      (right.leases id leaseOwner (isDrawn.trans_le left.drawn) leases)

theorem fades_of_same {before after : World} (windows : after.windows = before.windows)
    (drawn : after.drawn = before.drawn) : Fades before after where
  drawn := drawn.ge
  leases id leaseOwner _ leases := by
    unfold World.Leases at leases ⊢
    rwa [windows] at leases

theorem fades_of_exec {around : Surroundings} {pid : Pid} {choice : Nat} {asked : Statement}
    {view : World} {effect : Effect World Key asked.Reply}
    (executed : exec around pid choice asked view = .ok effect) (base : World) :
    Fades base (effect.write base) := by
  cases asked <;> simp only [exec] at executed
  case createSyncWindow identity =>
    obtain ⟨-, executed⟩ := ok_of_unless executed
    cases executed
    exact ⟨le_rfl, fun _ _ _ => leases_of_addWindow⟩
  case createSnapshot snapshot =>
    split at executed
    · cases executed
      exact fades_refl base
    · cases executed
      exact fades_of_same rfl rfl
  case claimSyncWindow id now leaseDurationMs =>
    cases executed
    refine ⟨Nat.le_succ base.drawn, fun other leaseOwner isDrawn leases => ?_⟩
    refine leases_of_changeWindows (fun row _ leased => ?_) leases
    simp only [SyncWindow.leasedBy, Change.lease, Bool.and_eq_true, decide_eq_true_eq,
      Option.some.injEq] at leased
    exact absurd leased.2.symm isDrawn.ne
  case markTerminal id owner failure =>
    cases executed
    refine ⟨le_rfl, fun _ leaseOwner _ leases => ?_⟩
    refine leases_of_changeWindows (fun row _ leased => ?_) leases
    simp [SyncWindow.leasedBy, Change.finish] at leased
  case recoverExpiredLeases | releaseAfterEnqueueFailure | markRetryable | markSucceeded =>
    cases executed
    refine ⟨le_rfl, fun _ _ _ => leases_of_changeWindows fun row _ leased => ?_⟩
    simp [SyncWindow.leasedBy, Change.retry, Change.finish] at leased
  case refreshDue =>
    cases executed
    exact ⟨le_rfl, fun _ _ _ => leases_of_changeWindows fun row _ leased => leased⟩
  case addJob job =>
    cases executed
    show Fades base (base.enqueue job)
    unfold World.enqueue
    split
    · exact fades_refl base
    · exact fades_of_same rfl rfl
  all_goals
    cases executed
    exact fades_of_same rfl rfl

/-! ### The worker of a job -/

/-- A statement that changes windows only under the lease of the job. -/
def Statement.isUnder (job : SyncJob) : Statement → Prop
  | .markRetryable id leaseOwner _ _ | .markTerminal id leaseOwner _
  | .markSucceeded id leaseOwner => id = job.syncWindowId ∧ leaseOwner = job.leaseOwner
  | .createSyncWindow .. | .recoverExpiredLeases .. | .claimSyncWindow ..
  | .releaseAfterEnqueueFailure .. | .refreshDue .. => False
  | _ => True

theorem isUnder_of_isRead (job : SyncJob) (asked : Statement) (isRead : asked.isRead) :
    asked.isUnder job := by
  cases asked <;> trivial

section Worker

variable {around : Surroundings} {job : SyncJob}

theorem uses_complete (snapshot : MetricSnapshot) :
    (completeSyncWindowWithSnapshot around job.syncWindowId job.leaseOwner snapshot).Uses
      (Statement.isUnder job) := by
  refine uses_bind (uses_of_asks asks_require) fun _ => uses_transaction (uses_of_asks ?_)
  refine asks_bind (asks_ask trivial) fun found => ?_
  split
  · exact @asks_throw sync _ _ _
  · refine asks_bind asks_require fun _ => ?_
    refine asks_bind (asks_insertMetricSnapshot (isUnder_of_isRead job) around snapshot trivial) ?_
    exact fun _ => asks_bind (asks_ask ⟨rfl, rfl⟩) fun _ => asks_require

theorem uses_collect (window : SyncWindow) (context : PublicationContext) :
    (collect around job window context).Uses (Statement.isUnder job) := by
  refine uses_bind (uses_of_asks (asks_ask trivial)) fun answer => ?_
  cases answer with
  | error failure => exact Program.uses_throw _
  | ok observation => exact uses_complete _

/-- The worker of a job works under its lease. -/
theorem uses_process : (process around job).Uses (Statement.isUnder job) := by
  refine uses_bind (uses_of_asks (asks_ask trivial)) fun found => ?_
  split
  · exact Program.uses_pure _
  next window _ =>
  refine uses_bind (uses_of_asks (asks_getPublicationContext (isUnder_of_isRead job) _ _)) ?_
  rintro (_ | context)
  · exact uses_of_asks (asks_bind (asks_ask ⟨rfl, rfl⟩) fun _ => asks_pure ())
  refine uses_bind (uses_of_asks (asks_getSnapshotForWindow (isUnder_of_isRead job) ..)) ?_
  rintro (_ | snapshot)
  · refine uses_tryCatch (uses_collect window context) fun error => uses_of_asks ?_
    exact asks_handleFailure _ job error trivial (fun _ _ => ⟨rfl, rfl⟩) fun _ => ⟨rfl, rfl⟩
  · exact uses_of_asks (asks_bind (asks_ask ⟨rfl, rfl⟩) fun _ => asks_pure ())

/-- Without the lease, the windows stay as they are. -/
def Idles (job : SyncJob) (before after : World) : Prop :=
  ¬before.Leases job.syncWindowId job.leaseOwner → after.windows = before.windows

theorem idles_trans {first second third : World} (left : Idles job first second)
    (right : Idles job second third) : Idles job first third := by
  intro gone
  have same := left gone
  refine (right ?_).trans same
  unfold World.Leases
  rw [same]
  exact gone

theorem idles_of_exec {pid : Pid} {choice : Nat} {asked : Statement} {view : World}
    {effect : Effect World Key asked.Reply} (isUnder : asked.isUnder job)
    (executed : exec around pid choice asked view = .ok effect) (base : World) :
    Idles job base (effect.write base) := by
  intro gone
  cases asked <;> simp only [exec] at executed
  case markRetryable | markTerminal | markSucceeded =>
    cases executed
    obtain ⟨rfl, rfl⟩ := isUnder
    refine changeWindows_unleased (fun other member => ?_) gone
    exact List.mem_singleton.mp (List.mem_filter.mp member).1
  case createSyncWindow | recoverExpiredLeases | claimSyncWindow | releaseAfterEnqueueFailure
      | refreshDue => exact isUnder.elim
  case createSnapshot snapshot =>
    split at executed
    · cases executed
      rfl
    · cases executed
      rfl
  case addJob job =>
    cases executed
    show (base.enqueue job).windows = base.windows
    unfold World.enqueue
    split <;> rfl
  all_goals
    cases executed
    rfl

end Worker

/-! ### Every run -/

section Runs

variable {around : Surroundings} {machine after between : Machine sync World Key Call}

/-- The statements of the worker of a job are under its lease. -/
private def Call.uses : Call → Statement → Prop
  | process job, asked => asked.isUnder job
  | _, _ => True

private theorem uses_program (call : Call) : (call.program around).Uses call.uses := by
  cases call with
  | process job => exact uses_process
  | registerBusiness | publish | reconcile | refresh => exact uses_anything _

private def Call.Idles : Call → World → World → Prop
  | process job, before, after => Sync.Idles job before after
  | _, _, _ => True

private theorem Call.idles_refl (call : Call) (world : World) : call.Idles world world := by
  cases call with
  | process job => exact fun _ => rfl
  | registerBusiness | publish | reconcile | refresh => trivial

private theorem Call.idles_trans (call : Call) (first second third : World)
    (left : call.Idles first second) (right : call.Idles second third) :
    call.Idles first third := by
  cases call with
  | process job => exact Sync.idles_trans left right
  | registerBusiness | publish | reconcile | refresh => trivial

/-- The worker of a job whose lease is gone leaves the windows as they are. -/
theorem idles_of_step (reached : Reaches (system around) .free World.empty machine)
    {move : Move Call} {thread : Thread sync World Key Call} {job : SyncJob}
    (inFlight : machine.threads move.pid = some thread) (works : thread.call = .process job)
    (admitted : Discipline.free.AdmitsMove machine move)
    (stepped : (system around).step machine move = some after) :
    Idles job machine.world after.world := by
  obtain ⟨call, idles, moves⟩ := @relatedBy_of_step sync World Key Call _ (system around) .free
    Call.uses Call.Idles Call.idles_refl Call.idles_trans
    (fun pid call _ _ _ _ uses _ executed base => by
      cases call with
      | process job => exact @idles_of_exec _ job pid _ _ _ _ uses executed base
      | registerBusiness | publish | reconcile | refresh => trivial)
    World.empty machine after move (fun call _ => uses_program call) reached admitted stepped
  obtain rfl := (moves thread inFlight).symm.trans works
  exact idles

/-- A lease that is gone stays gone. -/
theorem fades_of_onward (reached : Reaches (system around) .free World.empty machine)
    (onward : Onward (system around) .free machine between) :
    Fades machine.world between.world :=
  @related_of_onward sync World Key Call _ (system around) World.empty machine between .free
    (fun _ _ => True) Fades fades_refl fades_trans
    (fun pid _ _ _ _ _ _ _ executed base => @fades_of_exec _ pid _ _ _ _ executed base)
    (fun _ _ => uses_anything _) reached onward

end Runs

end MarketMind.Performance.Sync
