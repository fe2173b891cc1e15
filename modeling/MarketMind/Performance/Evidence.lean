import MarketMind.Performance.Leases
import MarketMind.Transactions.Inside

/-!
Owns the agreement of sync windows and their evidence: a window has succeeded exactly when its
snapshot exists, and a job whose lease is gone changes no window.

Does not own how often the provider is called.
-/

namespace MarketMind.Performance.Sync

open MarketMind.Transactions
open MarketMind.Transactions.Protocol
open MarketMind.Transactions.Store (Asks asks_ask asks_bind asks_pure asks_throw)

/-! ### Windows and snapshots -/

/-- The snapshot of the window exists. -/
def World.HasEvidence (world : World) (window : SyncWindow) : Prop :=
  ∃ snapshot ∈ world.snapshots.rows, snapshot.ofPair window.publishingResultId window.window = true

/-- Windows and snapshots are alone in their places, and leases are of owners that were drawn. -/
structure Placed (world : World) : Prop where
  windowsApart : ∀ left ∈ world.windows.rows, ∀ right ∈ world.windows.rows,
    right.ofPair left.publishingResultId left.window = true → left.id = right.id
  snapshotsApart : ∀ left ∈ world.snapshots.rows, ∀ right ∈ world.snapshots.rows,
    right.ofPair left.publishingResultId left.window = true → left.id = right.id
  ofWindow : ∀ snapshot ∈ world.snapshots.rows, ∃ window ∈ world.windows.rows,
    snapshot.ofPair window.publishingResultId window.window = true
  leases : ∀ window ∈ world.windows.rows, ∀ leaseOwner, window.leaseOwner = some leaseOwner →
    leaseOwner < world.drawn
  jobs : ∀ job ∈ world.jobs, job.leaseOwner < world.drawn

/-- A window has succeeded exactly when its snapshot exists. -/
structure Evidenced (world : World) : Prop extends Placed world where
  succeeded : ∀ window ∈ world.windows.rows, window.state = .succeeded ↔ world.HasEvidence window

theorem evidenced_empty : Evidenced World.empty where
  windowsApart _ member := absurd member List.not_mem_nil
  snapshotsApart _ member := absurd member List.not_mem_nil
  ofWindow _ member := absurd member List.not_mem_nil
  leases _ member := absurd member List.not_mem_nil
  jobs _ member := absurd member List.not_mem_nil
  succeeded _ member := absurd member List.not_mem_nil

/-- Windows are for what they were, and snapshots are as they were. -/
structure Onwards (before after : World) : Prop where
  windows : ∀ id row, before.windows.find id = some row →
    ∃ later, after.windows.find id = some later ∧ later.toWindowIdentity = row.toWindowIdentity
  snapshots : ∀ id row, before.snapshots.find id = some row →
    after.snapshots.find id = some row
  drawn : before.drawn ≤ after.drawn

theorem onwards_refl (world : World) : Onwards world world where
  windows _ row found := ⟨row, found, rfl⟩
  snapshots _ _ found := found
  drawn := le_rfl

theorem onwards_trans {first second third : World} (left : Onwards first second)
    (right : Onwards second third) : Onwards first third where
  windows id row found := by
    obtain ⟨between, foundBetween, near⟩ := left.windows id row found
    obtain ⟨later, foundLater, far⟩ := right.windows id between foundBetween
    exact ⟨later, foundLater, far.trans near⟩
  snapshots id row found := right.snapshots id row (left.snapshots id row found)
  drawn := left.drawn.trans right.drawn

theorem Onwards.hasEvidence {before after : World} (onwards : Onwards before after)
    {window : SyncWindow} (has : before.HasEvidence window) : after.HasEvidence window := by
  obtain ⟨snapshot, member, ofPair⟩ := has
  have found := onwards.snapshots _ snapshot (Table.find_of_mem member)
  exact ⟨snapshot, Table.mem_of_find found, ofPair⟩

theorem hasEvidence_congr {world : World} {left right : SyncWindow}
    (same : left.toWindowIdentity = right.toWindowIdentity) :
    world.HasEvidence left ↔ world.HasEvidence right := by
  unfold World.HasEvidence
  rw [congrArg WindowIdentity.publishingResultId same, congrArg WindowIdentity.window same]

theorem SyncWindow.ofPair_congr {left right : SyncWindow}
    (same : left.toWindowIdentity = right.toWindowIdentity) {publishingResultId : Uuid}
    {window : PerformanceWindow} :
    left.ofPair publishingResultId window = right.ofPair publishingResultId window := by
  unfold SyncWindow.ofPair
  rw [congrArg WindowIdentity.publishingResultId same, congrArg WindowIdentity.window same]

/-! ### Changes of windows -/

section Changes

variable {base : World} {ids : List Uuid} {allowed : SyncWindow → Bool} {change : Change}

theorem onwards_changeWindows : Onwards base (base.changeWindows ids allowed change) where
  windows id row found := by
    refine ⟨row.changed ids allowed change, ?_, row.same_changed⟩
    rw [World.find_changeWindows, found]
    rfl
  snapshots _ _ found := found
  drawn := le_rfl

theorem placed_changeWindows (placed : Placed base)
    (owners : ∀ row ∈ base.windows.rows, ∀ leaseOwner,
      (change.apply row).leaseOwner = some leaseOwner → leaseOwner < base.drawn) :
    Placed (base.changeWindows ids allowed change) where
  windowsApart left isLeft right isRight ofPair := by
    obtain ⟨leftOld, isLeftOld, rfl⟩ := mem_changeWindows.mp isLeft
    obtain ⟨rightOld, isRightOld, rfl⟩ := mem_changeWindows.mp isRight
    have leftSame := @SyncWindow.same_changed ids allowed change leftOld
    have rightSame := @SyncWindow.same_changed ids allowed change rightOld
    rw [SyncWindow.ofPair_congr rightSame, congrArg WindowIdentity.publishingResultId leftSame,
      congrArg WindowIdentity.window leftSame] at ofPair
    rw [congrArg WindowIdentity.id leftSame, congrArg WindowIdentity.id rightSame]
    exact placed.windowsApart leftOld isLeftOld rightOld isRightOld ofPair
  snapshotsApart := placed.snapshotsApart
  ofWindow snapshot member := by
    obtain ⟨window, isWindow, ofPair⟩ := placed.ofWindow snapshot member
    have same := @SyncWindow.same_changed ids allowed change window
    refine ⟨_, mem_changeWindows.mpr ⟨window, isWindow, rfl⟩, ?_⟩
    rw [congrArg WindowIdentity.publishingResultId same, congrArg WindowIdentity.window same]
    exact ofPair
  leases window member leaseOwner isOwner := by
    obtain ⟨old, isOld, rfl⟩ := mem_changeWindows.mp member
    unfold SyncWindow.changed at isOwner
    split at isOwner
    · exact owners old isOld leaseOwner isOwner
    · exact placed.leases old isOld leaseOwner isOwner
  jobs := placed.jobs

/-- The agreement after a change: what the change makes of the windows that it hits is right. -/
theorem evidenced_changeWindows (placed : Placed base)
    (owners : ∀ row ∈ base.windows.rows, ∀ leaseOwner,
      (change.apply row).leaseOwner = some leaseOwner → leaseOwner < base.drawn)
    (settled : ∀ row ∈ base.windows.rows,
      (row.changed ids allowed change).state = .succeeded ↔ base.HasEvidence row) :
    Evidenced (base.changeWindows ids allowed change) where
  toPlaced := placed_changeWindows placed owners
  succeeded window member := by
    obtain ⟨old, isOld, rfl⟩ := mem_changeWindows.mp member
    exact (settled old isOld).trans (hasEvidence_congr old.same_changed).symm

/-- A change among the windows that have not succeeded. -/
theorem evidenced_unsettled (holds : Evidenced base)
    (owners : ∀ row ∈ base.windows.rows, ∀ leaseOwner,
      (change.apply row).leaseOwner = some leaseOwner → leaseOwner < base.drawn)
    (open' : ∀ row, allowed row = true → row.state ≠ .succeeded)
    (stays : ∀ row, (change.apply row).state = .succeeded → row.state = .succeeded) :
    Evidenced (base.changeWindows ids allowed change) := by
  refine evidenced_changeWindows holds.toPlaced owners fun row member => ?_
  rw [← holds.succeeded row member]
  unfold SyncWindow.changed
  split
  · next hit =>
    have isOpen := open' row (Bool.and_eq_true_iff.mp hit).2
    exact ⟨fun later => absurd (stays row later) isOpen, fun now => absurd now isOpen⟩
  · exact Iff.rfl

end Changes

/-! ### New rows -/

section Rows

variable {base : World}

theorem onwards_addWindow {new : SyncWindow} : Onwards base (base.addWindow new) where
  windows _ row found := ⟨row, Table.find_insertUnless_of_found found, rfl⟩
  snapshots _ _ found := found
  drawn := le_rfl

theorem onwards_addSnapshot {new : MetricSnapshot} : Onwards base (base.addSnapshot new) where
  windows _ row found := ⟨row, found, rfl⟩
  snapshots _ _ found := Table.find_insertUnless_of_found found
  drawn := le_rfl

/-- Rows for other windows are other rows. -/
private theorem ofPair_symm {left right : SyncWindow}
    (ofPair : right.ofPair left.publishingResultId left.window = true) :
    left.ofPair right.publishingResultId right.window = true := by
  simp only [SyncWindow.ofPair, Bool.and_eq_true, decide_eq_true_eq] at ofPair ⊢
  exact ⟨ofPair.1.symm, ofPair.2.symm⟩

private theorem MetricSnapshot.ofPair_symm {left right : MetricSnapshot}
    (ofPair : right.ofPair left.publishingResultId left.window = true) :
    left.ofPair right.publishingResultId right.window = true := by
  simp only [MetricSnapshot.ofPair, Bool.and_eq_true, decide_eq_true_eq] at ofPair ⊢
  exact ⟨ofPair.1.symm, ofPair.2.symm⟩

private theorem apart_of_free {α : Type} {rows : List α} {clash : α → Bool} {row : α}
    (free : rows.any clash = false) (member : row ∈ rows) : clash row ≠ true :=
  fun clashes => List.any_eq_false.mp free row member clashes

/-- A window is new for its result, so it has no evidence yet. -/
theorem evidenced_addWindow (holds : Evidenced base) (identity : WindowIdentity) :
    Evidenced (base.addWindow identity.queued) where
  windowsApart left isLeft right isRight ofPair := by
    rcases mem_addWindow isLeft with isLeft | ⟨rfl, -, free⟩
    · rcases mem_addWindow isRight with isRight | ⟨rfl, -, free⟩
      · exact holds.windowsApart left isLeft right isRight ofPair
      · exact absurd (ofPair_symm ofPair) (apart_of_free free isLeft)
    · rcases mem_addWindow isRight with isRight | ⟨rfl, -⟩
      · exact absurd ofPair (apart_of_free free isRight)
      · rfl
  snapshotsApart := holds.snapshotsApart
  ofWindow snapshot member := by
    obtain ⟨window, isWindow, ofPair⟩ := holds.ofWindow snapshot member
    have found := Table.find_of_mem isWindow
    exact ⟨window, Table.mem_of_find (Table.find_insertUnless_of_found found), ofPair⟩
  leases window member leaseOwner isOwner := by
    rcases mem_addWindow member with member | ⟨rfl, -⟩
    · exact holds.leases window member leaseOwner isOwner
    · cases isOwner
  jobs := holds.jobs
  succeeded window member := by
    rcases mem_addWindow member with member | ⟨rfl, -, free⟩
    · exact holds.succeeded window member
    · refine ⟨nofun, ?_⟩
      rintro ⟨snapshot, isSnapshot, ofPair⟩
      obtain ⟨other, isOther, isFor⟩ := holds.ofWindow snapshot isSnapshot
      simp only [MetricSnapshot.ofPair, Bool.and_eq_true, decide_eq_true_eq] at ofPair isFor
      have clashes : other.ofPair identity.queued.publishingResultId identity.queued.window = true := by
        simp [SyncWindow.ofPair, ← isFor.1, ← isFor.2, ofPair.1, ofPair.2]
      exact absurd clashes (apart_of_free free isOther)

theorem hasEvidence_addSnapshot {new : MetricSnapshot} {window : SyncWindow}
    (fresh : base.snapshots.find new.id = none)
    (free : base.snapshots.rows.any (·.ofPair new.publishingResultId new.window) = false) :
    (base.addSnapshot new).HasEvidence window ↔
      base.HasEvidence window ∨ new.ofPair window.publishingResultId window.window = true := by
  unfold World.HasEvidence
  have rows : (base.addSnapshot new).snapshots.rows = base.snapshots.rows ++ [new] := by
    unfold World.addSnapshot
    rw [Table.insertUnless_of_free free, Table.rows_insert fresh]
  simp only [rows, List.mem_append, List.mem_singleton, or_and_right, exists_or, exists_eq_left]

/-- The evidence is kept and its window closed at once. -/
theorem evidenced_complete {new : MetricSnapshot} {id : Uuid} {leaseOwner : LeaseOwner}
    {window : SyncWindow} (holds : Evidenced base) (fresh : base.snapshots.find new.id = none)
    (free : base.snapshots.rows.any (·.ofPair new.publishingResultId new.window) = false)
    (found : base.windows.find id = some window) (leased : window.leasedBy leaseOwner = true)
    (ofPair : window.ofPair new.publishingResultId new.window = true) :
    Evidenced ((base.addSnapshot new).changeWindows [id] (·.leasedBy leaseOwner)
      (.finish .succeeded none)) := by
  have isFor : new.ofPair window.publishingResultId window.window = true := by
    simp only [SyncWindow.ofPair, MetricSnapshot.ofPair, Bool.and_eq_true,
      decide_eq_true_eq] at ofPair ⊢
    exact ⟨ofPair.1.symm, ofPair.2.symm⟩
  have placed : Placed (base.addSnapshot new) :=
    { windowsApart := holds.windowsApart
      leases := holds.leases
      jobs := holds.jobs
      snapshotsApart := by
        intro left isLeft right isRight same
        rcases mem_addSnapshot isLeft with leftKnown | ⟨rfl, -⟩
        · rcases mem_addSnapshot isRight with rightKnown | ⟨rfl, -⟩
          · exact holds.snapshotsApart left leftKnown right rightKnown same
          · exact absurd (MetricSnapshot.ofPair_symm same) (apart_of_free free leftKnown)
        · rcases mem_addSnapshot isRight with rightKnown | ⟨rfl, -⟩
          · exact absurd same (apart_of_free free rightKnown)
          · rfl
      ofWindow := by
        intro snapshot isSnapshot
        rcases mem_addSnapshot isSnapshot with known | ⟨rfl, -⟩
        · exact holds.ofWindow snapshot known
        · exact ⟨window, Table.mem_of_find found, isFor⟩ }
  refine evidenced_changeWindows placed (fun _ _ _ => nofun) fun row member => ?_
  rw [hasEvidence_addSnapshot fresh free]
  by_cases same : row.id = id
  · have isRow : base.windows.find row.id = some row := Table.find_of_mem member
    rw [same, found] at isRow
    obtain rfl := Option.some.inj isRow
    have hit : (window.id ∈ [id] && window.leasedBy leaseOwner) = true := by simp [same, leased]
    unfold SyncWindow.changed
    rw [if_pos hit]
    exact ⟨fun _ => .inr isFor, fun _ => rfl⟩
  · have missed : ¬(row.id ∈ [id] && row.leasedBy leaseOwner) = true := by simp [same]
    unfold SyncWindow.changed
    rw [if_neg missed, holds.succeeded row member]
    refine ⟨.inl, fun given => given.resolve_right fun isToo => same ?_⟩
    have alike : window.ofPair row.publishingResultId row.window = true := by
      simp only [SyncWindow.ofPair, MetricSnapshot.ofPair, Bool.and_eq_true,
        decide_eq_true_eq] at isToo ofPair ⊢
      exact ⟨ofPair.1.trans isToo.1, ofPair.2.trans isToo.2⟩
    exact (holds.windowsApart row member window (Table.mem_of_find found) alike).trans
      (Table.key_of_find found)

/-- A window whose evidence is there is not leased, so nothing is left to mark. -/
theorem evidenced_mark {id : Uuid} {leaseOwner : LeaseOwner} {ids : List Uuid}
    (holds : Evidenced base) (within : ∀ other ∈ ids, other = id)
    (evident : ∀ window, base.windows.find id = some window → base.HasEvidence window) :
    Evidenced (base.changeWindows ids (·.leasedBy leaseOwner) (.finish .succeeded none)) := by
  refine evidenced_changeWindows holds.toPlaced (fun _ _ _ => nofun) fun row member => ?_
  rw [← holds.succeeded row member]
  unfold SyncWindow.changed
  split
  · next hit =>
    obtain ⟨isOne, leased⟩ := Bool.and_eq_true_iff.mp hit
    have found := Table.find_of_mem member
    rw [show Keyed.key row = id from within row.id (of_decide_eq_true isOne)] at found
    have succeeded := (holds.succeeded row member).mpr (evident row found)
    simp [SyncWindow.leasedBy, succeeded] at leased
  · exact Iff.rfl

end Rows

/-! ### The protocol -/

variable {around : Surroundings} {pid : Pid} {call : Call}

/-- Every call keeps the agreement and the evidence, and relies on it. -/
def evidence (around : Surroundings) : Protocol (system around) where
  discipline := .free
  invariant := Evidenced
  rely := fun _ => Onwards
  rely_refl _ := onwards_refl
  rely_trans _ := onwards_trans

theorem uniform_evidence : Uniform (evidence around) := fun _ _ _ _ relied => relied

private theorem keeps_of {base after : World} (holds : Evidenced after)
    (onwards : Onwards base after) :
    (evidence around).invariant after ∧ (evidence around).Guarantees pid base after :=
  ⟨holds, fun _ _ => onwards⟩

/-- Worlds with the same windows, snapshots and leases. -/
theorem evidenced_of_same {base after : World} (holds : Evidenced base)
    (windows : after.windows = base.windows) (snapshots : after.snapshots = base.snapshots)
    (jobs : after.jobs = base.jobs) (drawn : after.drawn = base.drawn) : Evidenced after := by
  have has : ∀ window, after.HasEvidence window ↔ base.HasEvidence window := by
    intro window
    unfold World.HasEvidence
    rw [snapshots]
  refine ⟨⟨?_, ?_, ?_, ?_, ?_⟩, ?_⟩
  · exact windows ▸ holds.windowsApart
  · exact snapshots ▸ holds.snapshotsApart
  · rw [windows, snapshots]
    exact holds.ofWindow
  · rw [windows, drawn]
    exact holds.leases
  · rw [jobs, drawn]
    exact holds.jobs
  · intro window member
    rw [has]
    exact holds.succeeded window (windows ▸ member)

theorem onwards_of_same {base after : World} (windows : after.windows = base.windows)
    (snapshots : after.snapshots = base.snapshots) (drawn : after.drawn = base.drawn) :
    Onwards base after where
  windows _ row found := ⟨row, windows ▸ found, rfl⟩
  snapshots _ _ found := snapshots ▸ found
  drawn := drawn.ge

/-- A statement whose write keeps the agreement anywhere. -/
def Statement.isSparing : Statement → Prop
  | .markSucceeded .. | .createSnapshot .. | .addJob .. => False
  | _ => True

/-- Windows that a lease is taken from have not succeeded. -/
private theorem unsettled_leased {row : SyncWindow} {leaseOwner : LeaseOwner}
    (leased : row.leasedBy leaseOwner = true) : row.state ≠ .succeeded := by
  simp only [SyncWindow.leasedBy, Bool.and_eq_true, decide_eq_true_eq] at leased
  simp [leased.1]

private theorem unsettled_expired {row : SyncWindow} {now : Instant}
    (expired : row.isExpired now = true) : row.state ≠ .succeeded := by
  simp only [SyncWindow.isExpired, Bool.and_eq_true, decide_eq_true_eq] at expired
  simp [expired.1]

private theorem unsettled_due {row : SyncWindow} {now : Instant}
    (due : row.isDue now = true) : row.state ≠ .succeeded := by
  simp only [SyncWindow.isDue, SyncWindow.isOpen, Bool.and_eq_true, Bool.or_eq_true,
    decide_eq_true_eq] at due
  rcases due.2 with queued | ⟨retryable, -⟩
  · simp [queued]
  · simp [retryable]

private theorem unsettled_refreshable {row : SyncWindow} {isRecent : Bool}
    (refreshable : row.isRefreshable isRecent = true) : row.state ≠ .succeeded := by
  simp only [SyncWindow.isRefreshable, Bool.and_eq_true, Bool.or_eq_true,
    decide_eq_true_eq] at refreshable
  rcases refreshable.1 with queued | retryable
  · simp [queued]
  · simp [retryable]

section Moves

variable {base : World} {ids : List Uuid} {leaseOwner : LeaseOwner}

theorem evidenced_stop {failure : Failure} (holds : Evidenced base) :
    Evidenced (base.stop ids leaseOwner failure) ∧ Onwards base (base.stop ids leaseOwner failure) := by
  have finished : Evidenced (base.changeWindows ids (·.leasedBy leaseOwner)
      (.finish .terminal (some failure.code))) :=
    evidenced_unsettled holds (fun _ _ _ => nofun) (fun _ => unsettled_leased) fun _ => nofun
  exact ⟨evidenced_of_same finished rfl rfl rfl rfl,
    onwards_trans onwards_changeWindows (onwards_of_same rfl rfl rfl)⟩

theorem evidenced_claim {now leaseDurationMs : Int} (holds : Evidenced base) :
    Evidenced (base.claim ids now leaseDurationMs) ∧
      Onwards base (base.claim ids now leaseDurationMs) := by
  have drawn : Evidenced { base with drawn := base.drawn + 1 } :=
    ⟨⟨holds.windowsApart, holds.snapshotsApart, holds.ofWindow,
      fun row member owner isOwner => Nat.lt_succ_of_lt (holds.leases row member owner isOwner),
      fun job member => Nat.lt_succ_of_lt (holds.jobs job member)⟩, holds.succeeded⟩
  have further : Onwards base { base with drawn := base.drawn + 1 } :=
    ⟨fun _ row found => ⟨row, found, rfl⟩, fun _ _ found => found, Nat.le_succ _⟩
  have leased : Evidenced (World.changeWindows { base with drawn := base.drawn + 1 } ids
      (·.isDue now) (.lease base.drawn (now + leaseDurationMs))) := by
    refine evidenced_unsettled drawn (fun _ _ leaseOwner isOwner => ?_) (fun _ => unsettled_due)
      fun _ => nofun
    cases isOwner
    exact Nat.lt_succ_self base.drawn
  exact ⟨evidenced_of_same leased rfl rfl rfl rfl,
    onwards_trans further (onwards_trans onwards_changeWindows (onwards_of_same rfl rfl rfl))⟩

end Moves

theorem spares_of_isSparing {asked : Statement} (isSparing : asked.isSparing) :
    (evidence around).Spares pid call asked := by
  intro choice view effect _ executed base holds _
  have executed : exec around pid choice asked view = .ok effect := executed
  cases asked <;> simp only [exec] at executed
  case createSyncWindow identity =>
    obtain ⟨-, executed⟩ := ok_of_unless executed
    cases executed
    exact keeps_of (evidenced_addWindow holds _) onwards_addWindow
  case recoverExpiredLeases now =>
    cases executed
    exact keeps_of (evidenced_unsettled holds (fun _ _ _ => by rintro ⟨⟩) (fun _ => unsettled_expired)
      fun _ => by rintro ⟨⟩) onwards_changeWindows
  case markTerminal id leaseOwner failure =>
    cases executed
    obtain ⟨kept, onwards⟩ := evidenced_stop holds
    exact keeps_of kept onwards
  case releaseAfterEnqueueFailure | markRetryable =>
    cases executed
    exact keeps_of (evidenced_unsettled holds (fun _ _ _ => by rintro ⟨⟩) (fun _ => unsettled_leased)
      fun _ => by rintro ⟨⟩) onwards_changeWindows
  case refreshDue ids now =>
    cases executed
    exact keeps_of (evidenced_unsettled holds (fun row member leaseOwner isOwner =>
      holds.leases row member leaseOwner isOwner) (fun _ => unsettled_refreshable)
      fun _ same => same) onwards_changeWindows
  case claimSyncWindow id now leaseDurationMs =>
    cases executed
    obtain ⟨kept, onwards⟩ := evidenced_claim holds
    exact keeps_of kept onwards
  case markSucceeded | createSnapshot | addJob => exact isSparing.elim
  all_goals
    cases executed
    exact keeps_of (evidenced_of_same holds rfl rfl rfl rfl) (onwards_of_same rfl rfl rfl)

theorem spares_of_shared (asked : Statement) (isShared : asked.isShared) :
    (evidence around).Spares pid call asked := by
  refine spares_of_isSparing ?_
  cases asked <;> trivial

/-! ### Facts about one window -/

/-- The window is still there, for the same figures. -/
def World.Knows (world : World) (id : Uuid) (window : SyncWindow) : Prop :=
  ∃ row, world.windows.find id = some row ∧ row.toWindowIdentity = window.toWindowIdentity

theorem stable_knows (id : Uuid) (window : SyncWindow) :
    (evidence around).Stable fun world => world.Knows id window := by
  rintro _ _ _ relied ⟨row, found, same⟩
  obtain ⟨later, foundLater, sameLater⟩ := Onwards.windows relied id row found
  exact ⟨later, foundLater, sameLater.trans same⟩

theorem stable_hasEvidence (window : SyncWindow) :
    (evidence around).Stable fun world => world.HasEvidence window :=
  fun _ _ _ relied => Onwards.hasEvidence relied

theorem stable_drawn (leaseOwner : LeaseOwner) :
    (evidence around).Stable fun world => leaseOwner < world.drawn :=
  fun _ _ _ relied isDrawn => isDrawn.trans_le (Onwards.drawn relied)

theorem hasEvidence_of_knows {world : World} {id : Uuid} {window : SyncWindow}
    (knows : world.Knows id window) (has : world.HasEvidence window) (row : SyncWindow)
    (found : world.windows.find id = some row) : world.HasEvidence row := by
  obtain ⟨other, foundOther, same⟩ := knows
  obtain rfl := Option.some.inj (found.symm.trans foundOther)
  exact (hasEvidence_congr same).mpr has

theorem hasEvidence_of_snapshotOf {world : World} {window : SyncWindow} {snapshot : MetricSnapshot}
    (found : world.snapshotOf window.publishingResultId window.window = some snapshot) :
    world.HasEvidence window :=
  ⟨snapshot, List.mem_of_find?_eq_some found, List.find?_some found⟩

/-! ### The reconciler -/

theorem closes_require {opened : Session World Key} {fact : World → Prop} {condition : Bool}
    {error : SyncError} {α : Type} {next : Unit → Code α}
    (passes : condition = true → (evidence around).Closes pid call opened fact (next ())) :
    (evidence around).Closes pid call opened fact (require condition error >>= next) := by
  unfold require
  split
  · next met => exact passes met
  · exact closes_throw

theorem maintains_require {error : SyncError} (condition : Bool) :
    (evidence around).Maintains pid call (require condition error) := by
  unfold require
  split
  · exact maintains_pure ()
  · exact @maintains_throw _ _ _ _ _ (evidence around) pid call _ error

theorem maintains_discover (publicationIds : List Uuid) :
    (evidence around).Maintains pid call (discover publicationIds) :=
  maintains_of_sparing (asks_discover spares_of_shared publicationIds)

/-- A claim hands out a lease owner that was drawn. -/
theorem ensures_claimSyncWindow (id : Uuid) (now duration : Int) :
    (evidence around).Ensures pid call (fun _ => True) (claimSyncWindow id now duration)
      (returning fun found world => ∀ window, found = some window →
        window.leaseOwner.getD 0 < world.drawn) := by
  have first : (evidence around).Ensures pid call (fun _ => True)
      (ask (.claimSyncWindow id now duration))
      (returning fun reply world => ∀ leaseOwner, reply = some leaseOwner →
        leaseOwner < world.drawn) := by
    refine ensures_ask fun choice world effect admitted executed holds _ => ?_
    have spares : (evidence around).Spares pid call (.claimSyncWindow id now duration) :=
      spares_of_isSparing trivial
    obtain ⟨kept, guarantees⟩ := spares choice world effect admitted executed world holds trivial
    refine ⟨kept, guarantees, fun later relied _ leaseOwner isOwner => ?_⟩
    have executed : exec around pid choice (.claimSyncWindow id now duration) world = .ok effect :=
      executed
    cases executed
    dsimp only at isOwner
    split at isOwner
    · cases isOwner
    · cases isOwner
      exact (Nat.lt_succ_self world.drawn).trans_le (Onwards.drawn relied)
  refine ensures_bind first (fun reply => ?_) fun _ _ _ => trivial
  cases reply with
  | none =>
      refine ensures_pure fun _ _ window isClaimed => ?_
      cases isClaimed
  | some leaseOwner =>
      have reads : (evidence around).Maintains pid call (ask (.getSyncWindowById id)) :=
        (spares_of_shared (.getSyncWindowById id) trivial).maintains
      have framed := reads.frame uniform_evidence (stable_drawn leaseOwner)
      have known : (evidence around).Ensures pid call
          (fun world => ∀ other, some leaseOwner = some other → other < world.drawn)
          (ask (.getSyncWindowById id)) fun _ world => leaseOwner < world.drawn :=
        framed.mono (fun world given => given leaseOwner rfl) fun _ _ isDrawn => isDrawn
      refine ensures_bind known (fun claimed => ?_) fun _ _ _ => trivial
      refine ensures_pure fun world isDrawn window isClaimed => ?_
      have leased := Option.filter_eq_some_iff.mp isClaimed
      simp only [SyncWindow.leasedBy, Bool.and_eq_true, decide_eq_true_eq] at leased
      rw [leased.2.2]
      exact isDrawn

theorem ensures_addJob (job : SyncJob) :
    (evidence around).Ensures pid call (fun world => job.leaseOwner < world.drawn)
      (ask (.addJob job)) fun _ _ => True := by
  have added : (evidence around).Ensures pid call (fun world => job.leaseOwner < world.drawn)
      (ask (.addJob job)) (returning fun _ _ => True) := ?_
  · exact added.mono (fun _ isDrawn => isDrawn) fun _ _ _ => trivial
  refine ensures_ask fun choice world effect _ executed holds isDrawn => ?_
  have executed : exec around pid choice (.addJob job) world = .ok effect := executed
  cases executed
  show (evidence around).invariant (world.enqueue job) ∧
    (evidence around).Guarantees pid world (world.enqueue job) ∧ _
  unfold World.enqueue
  split
  · exact ⟨holds, guarantees_refl world, fun _ _ _ => trivial⟩
  · have kept : Evidenced { world with jobs := world.jobs ++ [job] } := by
      refine ⟨⟨holds.windowsApart, holds.snapshotsApart, holds.ofWindow, holds.leases, ?_⟩,
        holds.succeeded⟩
      intro other member
      rcases List.mem_append.mp member with known | new
      · exact holds.jobs other known
      · exact List.mem_singleton.mp new ▸ isDrawn
    exact ⟨kept, fun _ _ => ⟨fun _ row found => ⟨row, found, rfl⟩, fun _ _ found => found, le_rfl⟩,
      fun _ _ _ => trivial⟩

theorem maintains_dispatch (now : Instant) (ids : List Uuid) :
    (evidence around).Maintains pid call (dispatch now ids) := by
  induction ids with
  | nil => exact maintains_pure ()
  | cons windowId rest inductionHypothesis =>
      suffices ensures : (evidence around).Ensures pid call (fun _ => True)
          (dispatch now (windowId :: rest)) fun _ _ => True from ensures.maintains
      unfold dispatch
      refine ensures_bind (ensures_claimSyncWindow windowId now leaseDurationMs) (fun claimed => ?_)
        fun _ _ _ => trivial
      cases claimed with
      | none => exact inductionHypothesis.ensures
      | some window =>
          have queued : (evidence around).Ensures pid call
              (fun world => window.leaseOwner.getD 0 < world.drawn)
              (do
                let added ← ask (.addJob ⟨windowId, window.attemptCount, window.leaseOwner.getD 0⟩)
                require added .queueFailure) fun _ _ => True :=
            ensures_bind (ensures_addJob ⟨windowId, window.attemptCount, window.leaseOwner.getD 0⟩)
              (fun added => (maintains_require added).ensures) fun _ _ _ => trivial
          have released : (evidence around).Maintains pid call (do
              let _ ← ask (.releaseAfterEnqueueFailure windowId (window.leaseOwner.getD 0)
                (now + retryBaseMs))) :=
            (@spares_of_isSparing around pid call
              (.releaseAfterEnqueueFailure windowId _ (now + retryBaseMs)) trivial).maintains
          have given := fun (world : World)
              (isDrawn : ∀ other, some window = some other → other.leaseOwner.getD 0 < world.drawn) =>
            isDrawn window rfl
          refine ensures_bind ((ensures_tryCatch queued (fun _ => released.ensures)
            fun _ _ _ => trivial).mono given fun _ _ => id) (fun _ => ?_) fun _ _ _ => trivial
          exact inductionHypothesis.ensures

theorem maintains_reconcileOnce (now : Instant) :
    (evidence around).Maintains pid call (reconcileOnce now) := by
  refine maintains_bind (spares_of_shared (.listEligiblePublicationIds _) trivial).maintains ?_
  intro publicationIds
  refine maintains_bind (maintains_discover publicationIds) fun _ => ?_
  refine maintains_bind (@spares_of_isSparing around pid call
    (.recoverExpiredLeases now) trivial).maintains fun _ => ?_
  refine maintains_bind (spares_of_shared (.listDueSyncWindowIds now _) trivial).maintains ?_
  intro dueIds
  exact maintains_dispatch now dueIds

theorem maintains_refresh (businessId publishingResultId : Uuid) (now : Instant) :
    (evidence around).Maintains pid call (refresh businessId publishingResultId now) := by
  refine maintains_bind (maintains_of_sparing (asks_getPublicationContext (reads_of_shared spares_of_shared) _ _)) ?_
  rintro (_ | context)
  · exact @maintains_throw _ _ _ _ _ (evidence around) pid call _ _
  refine maintains_bind (maintains_of_sparing
    (asks_ensureSyncWindowsForResult spares_of_shared _ _)) fun _ => ?_
  refine maintains_bind (maintains_of_sparing (asks_requestDueRefresh spares_of_shared _ _ _)) ?_
  intro updated
  split
  · exact maintains_pure ()
  · exact maintains_reconcileOnce now

/-! ### The worker -/

/-- No snapshot has the place of this one. -/
def World.IsFreeFor (world : World) (snapshot : MetricSnapshot) : Prop :=
  world.snapshots.find snapshot.id = none ∧
    world.snapshots.keysOf (·.ofPair snapshot.publishingResultId snapshot.window) = []

private theorem held_isFreeFor {opened : Session World Key} {snapshot : MetricSnapshot}
    (byId : Key.snapshot snapshot.id ∈ opened.held)
    (byPair : Key.evidence snapshot.publishingResultId snapshot.window ∈ opened.held) :
    (evidence around).Held pid opened (·.IsFreeFor snapshot) := by
  refine Held.and (held_of_key byId fun before after agree known => ?_)
    (held_of_key byPair fun before after agree known => ?_)
  · exact (show before.snapshots.find snapshot.id = after.snapshots.find snapshot.id from
      agree) ▸ known
  · exact (show before.snapshots.keysOf _ = after.snapshots.keysOf _ from agree) ▸ known

private theorem held_found {opened : Session World Key} {id : Uuid} {window : Option SyncWindow}
    (member : Key.window id ∈ opened.held) :
    (evidence around).Held pid opened fun world => world.windows.find id = window :=
  held_of_key member fun before after
    (agree : before.windows.find id = after.windows.find id) known => agree ▸ known

section Closing

variable {windowId : Uuid} {leaseOwner : LeaseOwner} {window : SyncWindow}
  {snapshot : MetricSnapshot} {opened : Session World Key} {fact : World → Prop}

private theorem held_of_stable (stable : (evidence around).Stable fact) :
    (evidence around).Held pid opened fact := held_of_rely fun before after => stable pid before after

private theorem closes_last {condition : Bool} {error : SyncError}
    (lands : condition = true → (evidence around).Lands pid fact opened.pending) :
    (evidence around).Closes pid call opened fact (require condition error) := by
  unfold require
  split
  · next met => exact closes_pure (lands met)
  · exact closes_throw

/-- The end of the transaction: the window is marked, or the transaction fails. -/
private def finishing (windowId : Uuid) (leaseOwner : LeaseOwner) : Code Unit := do
  let updated ← ask (.markSucceeded windowId leaseOwner)
  require (updated = 1)
    (.repository .syncTerminal "performance sync lease was lost before completion")

/-- The evidence was there before. -/
private theorem closes_finishing_known (unwritten : ∀ world, opened.pending world = world) :
    (evidence around).Closes pid call opened
      (fun world => world.Knows windowId window ∧ world.HasEvidence window)
      (finishing windowId leaseOwner) := by
  have held : (evidence around).Held pid opened
      fun world => world.Knows windowId window ∧ world.HasEvidence window :=
    held_of_stable ((stable_knows windowId window).and (stable_hasEvidence window))
  refine closes_ask fun choice world effect _ executed _ given => ⟨_, given, held.extend, ?_⟩
  have executed : exec around pid choice (.markSucceeded windowId leaseOwner)
    (opened.pending world) = .ok effect := executed
  cases executed
  refine closes_last fun _ base holds knows => ?_
  simp only [Session.extend, updateMany, unwritten]
  exact keeps_of (evidenced_mark holds (fun other member => List.mem_singleton.mp
    (List.mem_filter.mp member).1) fun row => hasEvidence_of_knows knows.1 knows.2 row)
    onwards_changeWindows

/-- The evidence is new. -/
private theorem closes_finishing_new (written : ∀ world, opened.pending world =
      world.addSnapshot snapshot)
    (isFor : window.ofPair snapshot.publishingResultId snapshot.window = true)
    (held : (evidence around).Held pid opened (·.IsFreeFor snapshot)) :
    (evidence around).Closes pid call opened
      (fun world => world.Knows windowId window ∧ world.IsFreeFor snapshot)
      (finishing windowId leaseOwner) := by
  have heldBoth : (evidence around).Held pid opened
      fun world => world.Knows windowId window ∧ world.IsFreeFor snapshot :=
    (held_of_stable (stable_knows windowId window)).and held
  refine closes_ask fun choice world effect _ executed _ given => ?_
  have executed : exec around pid choice (.markSucceeded windowId leaseOwner)
    (opened.pending world) = .ok effect := executed
  cases executed
  have sameWindows : (opened.pending world).windows = world.windows := by rw [written]; rfl
  by_cases leased : (world.windows.find windowId).any (·.leasedBy leaseOwner) = true
  swap
  · refine ⟨_, given, heldBoth.extend, closes_last fun updated => ?_⟩
    simp [updateMany, sameWindows, leased] at updated
  obtain ⟨row, found, isLeased⟩ := (Option.any_eq_true ..).mp leased
  obtain ⟨⟨known, foundKnown, same⟩, free⟩ := given
  obtain rfl := Option.some.inj (found.symm.trans foundKnown)
  have hit : [windowId].filter (fun id => ((opened.pending world).windows.find id).any
      (·.leasedBy leaseOwner)) = [windowId] := by
    rw [sameWindows]
    exact List.filter_eq_self.mpr fun id member => List.mem_singleton.mp member ▸ leased
  refine ⟨fun later => later.windows.find windowId = some row ∧ later.IsFreeFor snapshot,
    ⟨found, free⟩, Held.and (held_found ?_) held.extend, closes_last fun _ base holds given => ?_⟩
  · simp [Session.extend, updateMany, hit]
  · simp only [Session.extend, updateMany, hit]
    rw [written base]
    refine keeps_of (evidenced_complete holds given.2.1 (Table.keysOf_eq_nil.mp given.2.2) given.1
      isLeased (SyncWindow.ofPair_congr same ▸ isFor)) ?_
    exact onwards_trans onwards_addSnapshot onwards_changeWindows

/-- What is left of the transaction once the snapshot was inserted or found in its place. -/
private def recording (around : Surroundings) (windowId : Uuid) (leaseOwner : LeaseOwner)
    (snapshot : MetricSnapshot) : Code Unit := do
  let _ ← (do
    let conflict : SyncError := .repository .snapshotConflict
      "metric snapshot replay conflicts with immutable evidence"
    match ← ask (.findSnapshotOf snapshot.publishingResultId snapshot.window) with
    | none => throw conflict
    | some row => do
        let existing ← toSnapshotContract around row
        require (existing = snapshot) conflict
        pure existing)
  finishing windowId leaseOwner

private theorem closes_recording_known (unwritten : ∀ world, opened.pending world = world)
    (isFor : window.ofPair snapshot.publishingResultId snapshot.window = true) :
    (evidence around).Closes pid call opened (fun world => world.Knows windowId window)
      (recording around windowId leaseOwner snapshot) := by
  refine closes_assoc (closes_read (fun _ _ => rfl) fun world holds given => ?_)
  rw [unwritten]
  cases found : world.snapshotOf snapshot.publishingResultId snapshot.window with
  | none => exact ⟨_, given, held_of_stable (stable_knows windowId window), closes_throw⟩
  | some row =>
      simp only [SyncWindow.ofPair, Bool.and_eq_true, decide_eq_true_eq] at isFor
      rw [← isFor.1, ← isFor.2] at found
      refine ⟨fun world => world.Knows windowId window ∧ world.HasEvidence window,
        ⟨given, hasEvidence_of_snapshotOf found⟩,
        held_of_stable ((stable_knows windowId window).and (stable_hasEvidence window)), ?_⟩
      refine closes_assoc (closes_assoc (closes_require fun _ => ?_))
      exact closes_assoc (closes_require fun _ => closes_finishing_known unwritten)

private theorem closes_recording_new
    (written : ∀ world, opened.pending world = world.addSnapshot snapshot)
    (isFor : window.ofPair snapshot.publishingResultId snapshot.window = true)
    (held : (evidence around).Held pid opened (·.IsFreeFor snapshot)) :
    (evidence around).Closes pid call opened
      (fun world => world.Knows windowId window ∧ world.IsFreeFor snapshot)
      (recording around windowId leaseOwner snapshot) := by
  have heldBoth : (evidence around).Held pid opened
      fun world => world.Knows windowId window ∧ world.IsFreeFor snapshot :=
    (held_of_stable (stable_knows windowId window)).and held
  refine closes_assoc (closes_skim heldBoth (fun _ _ => rfl) fun found => ?_)
  cases found with
  | none => exact closes_throw
  | some row =>
      refine closes_assoc (closes_assoc (closes_require fun _ => ?_))
      exact closes_assoc (closes_require fun _ => closes_finishing_new written isFor held)

/-- The evidence is inserted with the rows around its place held. -/
private theorem closes_insert (unwritten : ∀ world, opened.pending world = world)
    (isFor : window.ofPair snapshot.publishingResultId snapshot.window = true) :
    (evidence around).Closes pid call opened (fun world => world.Knows windowId window)
      (do
        let _ ← insertMetricSnapshot around snapshot
        finishing windowId leaseOwner) := by
  have held : (evidence around).Held pid opened fun world => world.Knows windowId window :=
    held_of_stable (stable_knows windowId window)
  refine closes_assoc (closes_assoc (closes_skim held (fun _ _ => rfl) fun result => ?_))
  cases result with
  | none => exact closes_throw
  | some result =>
  refine closes_assoc (closes_require fun _ => closes_assoc (closes_require fun _ => ?_))
  refine closes_assoc (closes_skim held (fun _ _ => rfl) fun found => ?_)
  split
  · exact closes_throw
  refine closes_assoc (closes_require fun _ => closes_assoc (closes_ask ?_))
  intro choice world effect _ executed _ given
  have executed : exec around pid choice (.createSnapshot snapshot) (opened.pending world) =
    .ok effect := executed
  simp only [exec, unwritten] at executed
  split at executed
  · cases executed
    exact ⟨_, given, held.extend, closes_recording_known unwritten isFor⟩
  · next fresh =>
    cases executed
    simp only [Bool.or_eq_true, Option.isSome_iff_ne_none, ne_eq, not_or, not_not] at fresh
    have free : world.IsFreeFor snapshot :=
      ⟨fresh.1, Table.keysOf_eq_nil.mpr (List.any_eq_false.mpr
        (List.find?_eq_none.mp fresh.2))⟩
    have isHeld := @held_isFreeFor around pid (opened.extend (⟨(), (World.addSnapshot · snapshot),
      [.snapshot snapshot.id, .evidence snapshot.publishingResultId snapshot.window]⟩ :
        Effect World Key Unit)) snapshot (by simp [Session.extend]) (by simp [Session.extend])
    refine ⟨_, ⟨given, free⟩, held.extend.and isHeld, closes_recording_new ?_ isFor isHeld⟩
    intro base
    simp only [Session.extend, unwritten]

end Closing

theorem maintains_complete (windowId : Uuid) (leaseOwner : LeaseOwner)
    (snapshot : MetricSnapshot) : (evidence around).Maintains pid call
      (completeSyncWindowWithSnapshot around windowId leaseOwner snapshot) := by
  refine maintains_bind (maintains_require _) fun _ => maintains_of_closes ?_
  refine closes_read (fun _ _ => rfl) fun world _ _ => ?_
  rw [show (Session.fresh : Session World Key).pending world = world from rfl]
  cases found : (world.windows.find windowId).filter (·.leasedBy leaseOwner) with
  | none => exact ⟨_, trivial, held_true, closes_throw⟩
  | some window =>
      refine ⟨fun later => later.Knows windowId window,
        ⟨window, (Option.filter_eq_some_iff.mp found).1, rfl⟩,
        held_of_stable (stable_knows windowId window), closes_require fun isFor => ?_⟩
      exact closes_insert (fun _ => rfl) isFor

theorem maintains_handleFailure (attemptCount : Nat) (job : SyncJob) (error : SyncError) :
    (evidence around).Maintains pid call (handleFailure attemptCount job error) :=
  maintains_of_sparing (asks_handleFailure attemptCount job error (spares_of_isSparing trivial)
    (fun _ _ => spares_of_isSparing trivial) fun _ => spares_of_isSparing trivial)

theorem maintains_collect (job : SyncJob) (window : SyncWindow) (context : PublicationContext) :
    (evidence around).Maintains pid call (collect around job window context) := by
  refine maintains_bind (@spares_of_isSparing around pid call
    (.fetch job.syncWindowId job.leaseOwner context) trivial).maintains fun answer => ?_
  cases answer with
  | error failure => exact @maintains_throw _ _ _ _ _ (evidence around) pid call _ _
  | ok observation => exact maintains_complete _ _ _

/-- A snapshot that the worker finds is the evidence of the window. -/
theorem ensures_getSnapshotForWindow (window : SyncWindow) :
    (evidence around).Ensures pid call (fun _ => True)
      (getSnapshotForWindow around window.businessId window.publishingResultId window.window)
      (returning fun existing world => existing.isSome → world.HasEvidence window) := by
  have read : (evidence around).Ensures pid call (fun _ => True)
      (ask (.findSnapshotOf window.publishingResultId window.window))
      (returning fun found world => found.isSome → world.HasEvidence window) := by
    refine ensures_ask fun choice world effect _ executed holds _ => ?_
    have executed : exec around pid choice
      (.findSnapshotOf window.publishingResultId window.window) world = .ok effect := executed
    cases executed
    refine ⟨holds, guarantees_refl world, fun later relied _ isFound => ?_⟩
    obtain ⟨snapshot, found⟩ := Option.isSome_iff_exists.mp isFound
    exact Onwards.hasEvidence relied (hasEvidence_of_snapshotOf found)
  refine ensures_bind read (fun found => ?_) fun _ _ _ => trivial
  split
  · refine ensures_pure fun _ _ isFound => ?_
    cases isFound
  · next row kept =>
    have contract : (evidence around).Maintains pid call (toSnapshotContract around row) :=
      maintains_bind (maintains_require _) fun _ => maintains_pure row
    have framed := contract.frame uniform_evidence (stable_hasEvidence window)
    have isFound := (Option.filter_eq_some_iff.mp kept).1
    have evident : (evidence around).Ensures pid call
        (fun world => found.isSome → world.HasEvidence window) (toSnapshotContract around row)
        fun _ world => world.HasEvidence window :=
      framed.mono (fun _ given => given (isFound ▸ rfl)) fun _ _ has => has
    exact ensures_bind evident (fun _ => ensures_pure fun _ has _ => has) fun _ _ _ => trivial

/-- A window whose evidence was found is marked. -/
theorem ensures_markFound (job : SyncJob) (window : SyncWindow) :
    (evidence around).Ensures pid call
      (fun world => world.Knows job.syncWindowId window ∧ world.HasEvidence window)
      (do let _ ← ask (.markSucceeded job.syncWindowId job.leaseOwner)) fun _ _ => True := by
  have marked : (evidence around).Ensures pid call
      (fun world => world.Knows job.syncWindowId window ∧ world.HasEvidence window)
      (ask (.markSucceeded job.syncWindowId job.leaseOwner)) (returning fun _ _ => True) := by
    refine ensures_ask fun choice world effect _ executed holds given => ?_
    have executed : exec around pid choice (.markSucceeded job.syncWindowId job.leaseOwner) world =
      .ok effect := executed
    cases executed
    refine ⟨evidenced_mark holds (fun other member => ?_) fun row =>
      hasEvidence_of_knows given.1 given.2 row, fun _ _ => onwards_changeWindows,
      fun _ _ _ => trivial⟩
    exact List.mem_singleton.mp (List.mem_filter.mp member).1
  exact ensures_bind marked (fun _ => ensures_pure fun _ _ => trivial) fun _ _ _ => trivial

theorem maintains_process (job : SyncJob) :
    (evidence around).Maintains pid call (process around job) := by
  have read : (evidence around).Ensures pid call (fun _ => True)
      (ask (.getSyncWindowById job.syncWindowId))
      (returning fun found world => ∀ window, found = some window →
        world.Knows job.syncWindowId window) := by
    refine ensures_ask fun choice world effect _ executed holds _ => ?_
    have executed : exec around pid choice (.getSyncWindowById job.syncWindowId) world =
      .ok effect := executed
    cases executed
    refine ⟨holds, guarantees_refl world, fun later relied _ window found => ?_⟩
    exact stable_knows _ _ pid _ _ relied ⟨window, found, rfl⟩
  suffices ensures : (evidence around).Ensures pid call (fun _ => True) (process around job)
      fun _ _ => True from ensures.maintains
  refine ensures_bind read (fun found => ?_) fun _ _ _ => trivial
  split
  · exact ensures_pure fun _ _ => trivial
  next window kept =>
  have isFound := (Option.filter_eq_some_iff.mp kept).1
  have context : (evidence around).Maintains pid call
      (getPublicationContext window.publishingResultId window.businessId) :=
    maintains_of_sparing (asks_getPublicationContext (reads_of_shared spares_of_shared) _ _)
  have framed := context.frame uniform_evidence (stable_knows job.syncWindowId window)
  refine ensures_bind (framed.mono (fun world given => given window isFound) fun _ _ knows => knows)
    (fun context => ?_) fun _ _ _ => trivial
  cases context with
  | none =>
      have spares : (evidence around).Spares pid call
          (.markTerminal job.syncWindowId job.leaseOwner ⟨.notEligible, false⟩) :=
        spares_of_isSparing trivial
      exact Maintains.ensures (maintains_bind spares.maintains fun _ => maintains_pure ())
  | some context =>
      have learned := Ensures.frame uniform_evidence (stable_knows job.syncWindowId window)
        (@ensures_getSnapshotForWindow around pid call window)
      refine ensures_bind (learned.mono (fun _ knows => ⟨trivial, knows⟩) fun _ _ ends => ends)
        (fun existing => ?_) fun _ _ _ => trivial
      cases existing with
      | some snapshot =>
          exact (ensures_markFound job window).mono (fun _ given => ⟨given.2, given.1 rfl⟩)
            fun _ _ _ => trivial
      | none =>
          exact Maintains.ensures (maintains_tryCatch (maintains_collect job window context)
            fun error => maintains_handleFailure window.attemptCount job error)

/-! ### Every run -/

theorem safe_evidence : (evidence around).Safe fun _ _ => True := by
  refine safe_of_maintains fun pid call world _ _ => ?_
  cases call with
  | registerBusiness businessId ownerUserId =>
      exact (spares_of_shared (.registerBusiness businessId ownerUserId) trivial).maintains
  | publish result => exact (spares_of_shared (.publish result) trivial).maintains
  | reconcile now => exact maintains_reconcileOnce now
  | refresh businessId publishingResultId now => exact maintains_refresh _ _ now
  | process job => exact maintains_process job

section Runs

variable {machine between : Machine sync World Key Call}

theorem evidenced_of_reaches (reached : Reaches (system around) .free World.empty machine) :
    Evidenced machine.world :=
  @invariant_of_reaches sync World Key Call (system around) (evidence around) _ _ _ _
    safe_evidence evidenced_empty reached

theorem onwards_of_onward (reached : Reaches (system around) .free World.empty machine)
    (onward : Onward (system around) .free machine between) :
    Onwards machine.world between.world :=
  @relied_of_onward sync World Key Call _ (system around) _ _ _ (evidence around) _ Onwards
    safe_evidence (fun _ _ _ relied => relied) onwards_refl onwards_trans evidenced_empty reached
    onward

/-- A window has succeeded exactly when its snapshot is there; no window has two, and each stays as
it is. Once a lease is gone, no worker of its job changes a window. -/
theorem succeeded_windows_evidenced (reached : Reaches (system around) .free World.empty machine) :
    (∀ window ∈ machine.world.windows.rows,
      window.state = .succeeded ↔ machine.world.HasEvidence window) ∧
    (∀ left ∈ machine.world.snapshots.rows, ∀ right ∈ machine.world.snapshots.rows,
      right.ofPair left.publishingResultId left.window = true → left = right) ∧
    ∀ between, Onward (system around) .free machine between →
      (∀ snapshot ∈ machine.world.snapshots.rows, snapshot ∈ between.world.snapshots.rows) ∧
      ∀ job ∈ machine.world.jobs, ¬machine.world.Leases job.syncWindowId job.leaseOwner →
        ∀ move thread after, between.threads move.pid = some thread →
          thread.call = .process job → Discipline.free.AdmitsMove between move →
          (system around).step between move = some after →
            after.world.windows = between.world.windows := by
  have evidenced := evidenced_of_reaches reached
  refine ⟨evidenced.succeeded, fun left isLeft right isRight ofPair => ?_, fun between onward =>
    ⟨fun snapshot member => ?_, fun job queued gone move thread after inFlight works admitted
      stepped => ?_⟩⟩
  · have sameId := evidenced.snapshotsApart left isLeft right isRight ofPair
    have found := Table.find_of_mem isLeft
    rw [show Keyed.key left = Keyed.key right from sameId, Table.find_of_mem isRight] at found
    exact (Option.some.inj found).symm
  · have onwards := onwards_of_onward reached onward
    exact Table.mem_of_find (onwards.snapshots _ snapshot (Table.find_of_mem member))
  · have fades := fades_of_onward reached onward
    refine idles_of_step (onward.reaches reached) inFlight works admitted stepped fun leases => ?_
    exact gone (fades.leases _ _ (evidenced.jobs job queued) leases)

end Runs

/-- The first window of a post is collected, and its snapshot is kept for good. -/
theorem collected_window_kept : ∃ machine window snapshot,
    Reaches (system plainSurroundings) .free World.empty machine ∧
    window ∈ machine.world.windows.rows ∧ window.state = .succeeded ∧
    machine.world.snapshots.rows = [snapshot] ∧
    ∀ between, Onward (system plainSurroundings) .free machine between →
      snapshot ∈ between.world.snapshots.rows := by
  have played : ((system plainSurroundings).play (.idle World.empty)
      (queuedMoves ++ alone 3 (.process ⟨0, 1, 0⟩) 13)).map (fun machine =>
        (machine.world.windows.rows.map SyncWindow.state, machine.world.snapshots.rows.length)) =
      some ([.succeeded, .queued, .queued], 1) := by
    decide +kernel
  obtain ⟨machine, reached, observed⟩ := Reaches.of_play played
  obtain ⟨states, count⟩ := Prod.ext_iff.mp observed
  obtain ⟨snapshot, rows⟩ := List.length_eq_one_iff.mp count
  have inside : SyncState.succeeded ∈ machine.world.windows.rows.map SyncWindow.state := by
    rw [show machine.world.windows.rows.map SyncWindow.state = _ from states]
    exact List.mem_cons_self
  obtain ⟨window, member, succeeded⟩ := List.mem_map.mp inside
  obtain ⟨-, -, final⟩ := succeeded_windows_evidenced reached
  refine ⟨machine, window, snapshot, reached, member, succeeded, rows, fun between onward => ?_⟩
  exact (final between onward).1 snapshot (rows ▸ List.mem_singleton_self snapshot)

end MarketMind.Performance.Sync
