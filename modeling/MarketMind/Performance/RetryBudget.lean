import MarketMind.Performance.Leases
import MarketMind.Transactions.Inside

/-!
Owns the budget of provider calls for a window, and the runs that keep to it: those where every
attempt that is given up has had its one call, and that call failed.

Does not own what the calls bring.
-/

namespace MarketMind.Performance.Sync

open MarketMind.Transactions
open MarketMind.Transactions.Protocol
open MarketMind.Transactions.Store (Asks asks_ask asks_bind asks_pure asks_throw)

/-! ### Provider calls -/

namespace World

/-- The calls of the provider for the window. -/
def calls (world : World) (id : Uuid) : List Fetch := world.fetches.filter (·.syncWindowId = id)

/-- Those that failed. -/
def failedCalls (world : World) (id : Uuid) : List Fetch := (world.calls id).filter (·.failure.isSome)

/-- Those that failed under other leases. -/
def failedElsewhere (world : World) (id : Uuid) (leaseOwner : LeaseOwner) : List Fetch :=
  (world.failedCalls id).filter (·.leaseOwner ≠ leaseOwner)

def hasCalled (world : World) (id : Uuid) (leaseOwner : LeaseOwner) : Bool :=
  (world.calls id).any (·.leaseOwner = leaseOwner)

def hasFailed (world : World) (id : Uuid) (leaseOwner : LeaseOwner) : Bool :=
  (world.failedCalls id).any (·.leaseOwner = leaseOwner)

end World

/-! ### Faithful attempts -/

/-- The call of the attempt was made and failed, and another attempt is left. -/
def SyncWindow.isSpent (world : World) (row : SyncWindow) : Bool :=
  row.attemptCount < maxAttempts && row.leaseOwner.any (world.hasFailed row.id)

/-- What a step finds in the world before it: a lease is given back only when its attempt is spent,
the provider is called once under a lease, and a retryable failure is that of the call. -/
def Statement.isFaithful (world : World) : Statement → Bool
  | recoverExpiredLeases now =>
      world.windows.rows.all fun row => !row.isExpired now || row.isSpent world
  | releaseAfterEnqueueFailure id leaseOwner _ =>
      (world.windows.find id).all fun row => !row.leasedBy leaseOwner || row.isSpent world
  | fetch id leaseOwner _ => !world.hasCalled id leaseOwner
  | markRetryable id leaseOwner failure _ | markTerminal id leaseOwner failure =>
      !failure.retryable || (world.windows.find id).all fun row =>
        !row.leasedBy leaseOwner || world.hasFailed id leaseOwner
  | _ => true

/-- Runs whose steps are faithful. -/
def faithful : Discipline sync World Call where
  issues _ := True
  admits _ _ asked world := asked.isFaithful world = true
  isolation := .readCommitted

/-! ### The budget -/

/-- Every attempt of a window was claimed once; a window that waits for another attempt has had a
failed call for each. -/
structure Budgeted (world : World) : Prop where
  drawn : ∀ claim ∈ world.claims, claim.leaseOwner < world.drawn
  apart : (world.claims.map SyncJob.leaseOwner).Nodup
  counted : ∀ row ∈ world.windows.rows,
    (world.claims.filter (·.syncWindowId = row.id)).length = row.attemptCount
  ofWindow : ∀ claim ∈ world.claims, ∃ row ∈ world.windows.rows, row.id = claim.syncWindowId
  leased : ∀ row ∈ world.windows.rows, ∀ leaseOwner, row.leasedBy leaseOwner = true →
    ⟨row.id, row.attemptCount, leaseOwner⟩ ∈ world.claims
  jobs : ∀ job ∈ world.jobs, job ∈ world.claims
  fetched : ∀ fetch ∈ world.fetches, ∃ claim ∈ world.claims,
    claim.syncWindowId = fetch.syncWindowId ∧ claim.leaseOwner = fetch.leaseOwner
  once : world.fetches.Pairwise fun left right =>
    left.syncWindowId = right.syncWindowId → left.leaseOwner ≠ right.leaseOwner
  bounded : ∀ row ∈ world.windows.rows, row.attemptCount ≤ maxAttempts
  open' : ∀ row ∈ world.windows.rows, row.state = .queued ∨ row.state = .retryable →
    row.attemptCount < maxAttempts ∧ row.attemptCount ≤ (world.failedCalls row.id).length
  before : ∀ row ∈ world.windows.rows, ∀ leaseOwner, row.leasedBy leaseOwner = true →
    row.attemptCount ≤ (world.failedElsewhere row.id leaseOwner).length + 1
  stopped : ∀ stop ∈ world.stopped, stop.failure.retryable = true →
    maxAttempts ≤ (world.failedCalls stop.syncWindowId).length

theorem budgeted_empty : Budgeted World.empty where
  drawn _ member := absurd member List.not_mem_nil
  apart := List.nodup_nil
  counted _ member := absurd member List.not_mem_nil
  ofWindow _ member := absurd member List.not_mem_nil
  leased _ member := absurd member List.not_mem_nil
  jobs _ member := absurd member List.not_mem_nil
  fetched _ member := absurd member List.not_mem_nil
  once := List.Pairwise.nil
  bounded _ member := absurd member List.not_mem_nil
  open' _ member := absurd member List.not_mem_nil
  before _ member := absurd member List.not_mem_nil
  stopped _ member := absurd member List.not_mem_nil

/-- The provider is called at most once for each attempt. -/
theorem Budgeted.calls_le {world : World} (budgeted : Budgeted world) (id : Uuid) :
    (world.calls id).length ≤ maxAttempts := by
  have owners : ((world.calls id).map Fetch.leaseOwner).Nodup := by
    refine List.Pairwise.map _ ?_ (List.Pairwise.and_mem.mp
      (budgeted.once.sublist List.filter_sublist))
    rintro left right ⟨isLeft, isRight, apart⟩
    have leftId := of_decide_eq_true (List.mem_filter.mp isLeft).2
    have rightId := of_decide_eq_true (List.mem_filter.mp isRight).2
    exact apart (leftId.trans rightId.symm)
  have claimed : (world.calls id).map Fetch.leaseOwner ⊆
      (world.claims.filter (·.syncWindowId = id)).map SyncJob.leaseOwner := by
    intro leaseOwner member
    obtain ⟨fetch, isCall, rfl⟩ := List.mem_map.mp member
    obtain ⟨isFetch, isFor⟩ := List.mem_filter.mp isCall
    obtain ⟨claim, isClaim, sameId, sameOwner⟩ := budgeted.fetched fetch isFetch
    refine List.mem_map.mpr ⟨claim, List.mem_filter.mpr ⟨isClaim, ?_⟩, sameOwner⟩
    exact decide_eq_true (sameId.trans (of_decide_eq_true isFor))
  have count := (owners.subperm claimed).length_le
  rw [List.length_map, List.length_map] at count
  refine count.trans ?_
  cases empty : world.claims.filter (·.syncWindowId = id) with
  | nil => exact Nat.zero_le _
  | cons claim rest =>
      have isClaim : claim ∈ world.claims.filter (·.syncWindowId = id) :=
        empty ▸ List.mem_cons_self
      obtain ⟨inside, isFor⟩ := List.mem_filter.mp isClaim
      obtain ⟨row, isRow, sameId⟩ := budgeted.ofWindow claim inside
      have counted := budgeted.counted row isRow
      rw [sameId, of_decide_eq_true isFor, empty] at counted
      rw [counted]
      exact budgeted.bounded row isRow

/-! ### What a statement does to the budget -/

section Writes

variable {base : World} {ids : List Uuid} {allowed : SyncWindow → Bool} {change : Change}

/-- Worlds with the same windows, jobs and calls. -/
theorem budgeted_of_same {base after : World} (holds : Budgeted base)
    (windows : after.windows = base.windows) (jobs : after.jobs = base.jobs)
    (fetches : after.fetches = base.fetches) (drawn : after.drawn = base.drawn)
    (claims : after.claims = base.claims) (stopped : after.stopped = base.stopped) :
    Budgeted after := by
  have failed : ∀ id, after.failedCalls id = base.failedCalls id := by
    intro id
    unfold World.failedCalls World.calls
    rw [fetches]
  have elsewhere : ∀ id leaseOwner,
      after.failedElsewhere id leaseOwner = base.failedElsewhere id leaseOwner := by
    intro id leaseOwner
    unfold World.failedElsewhere
    rw [failed]
  constructor
  · rw [claims, drawn]
    exact holds.drawn
  · rw [claims]
    exact holds.apart
  · rw [windows, claims]
    exact holds.counted
  · rw [windows, claims]
    exact holds.ofWindow
  · rw [windows, claims]
    exact holds.leased
  · rw [jobs, claims]
    exact holds.jobs
  · rw [fetches, claims]
    exact holds.fetched
  · rw [fetches]
    exact holds.once
  · rw [windows]
    exact holds.bounded
  · simp only [windows, failed]
    exact holds.open'
  · simp only [windows, elsewhere]
    exact holds.before
  · simp only [stopped, failed]
    exact holds.stopped

/-- A change that takes no lease, and opens only windows whose attempts are spent. -/
theorem budgeted_changeWindows (holds : Budgeted base)
    (counts : ∀ row, (change.apply row).attemptCount = row.attemptCount)
    (leases : ∀ row leaseOwner, (change.apply row).leasedBy leaseOwner = true →
      row.leasedBy leaseOwner = true)
    (opens : ∀ row ∈ base.windows.rows, row.id ∈ ids → allowed row = true →
      (change.apply row).state = .queued ∨ (change.apply row).state = .retryable →
        row.attemptCount < maxAttempts ∧
          row.attemptCount ≤ (base.failedCalls row.id).length) :
    Budgeted (base.changeWindows ids allowed change) := by
  have count : ∀ row : SyncWindow, (row.changed ids allowed change).attemptCount = row.attemptCount := by
    intro row
    unfold SyncWindow.changed
    split
    · exact counts row
    · rfl
  have sameId : ∀ row : SyncWindow, (row.changed ids allowed change).id = row.id := fun row =>
    congrArg WindowIdentity.id row.same_changed
  have leased : ∀ (row : SyncWindow) leaseOwner, (row.changed ids allowed change).leasedBy leaseOwner = true →
      row.leasedBy leaseOwner = true := by
    intro row leaseOwner isLeased
    unfold SyncWindow.changed at isLeased
    split at isLeased
    · exact leases row leaseOwner isLeased
    · exact isLeased
  constructor
  · exact holds.drawn
  · exact holds.apart
  · intro row member
    obtain ⟨old, known, rfl⟩ := mem_changeWindows.mp member
    rw [count, sameId]
    exact holds.counted old known
  · intro claim member
    obtain ⟨old, known, isFor⟩ := holds.ofWindow claim member
    exact ⟨_, mem_changeWindows.mpr ⟨old, known, rfl⟩, (sameId old).trans isFor⟩
  · intro row member leaseOwner isLeased
    obtain ⟨old, known, rfl⟩ := mem_changeWindows.mp member
    rw [count, sameId]
    exact holds.leased old known leaseOwner (leased old leaseOwner isLeased)
  · exact holds.jobs
  · exact holds.fetched
  · exact holds.once
  · intro row member
    obtain ⟨old, known, rfl⟩ := mem_changeWindows.mp member
    rw [count]
    exact holds.bounded old known
  · intro row member isOpen
    obtain ⟨old, known, rfl⟩ := mem_changeWindows.mp member
    rw [count, sameId]
    unfold SyncWindow.changed at isOpen
    split at isOpen
    · next hit =>
      obtain ⟨isOne, isAllowed⟩ := Bool.and_eq_true_iff.mp hit
      exact opens old known (of_decide_eq_true isOne) isAllowed isOpen
    · exact holds.open' old known isOpen
  · intro row member leaseOwner isLeased
    obtain ⟨old, known, rfl⟩ := mem_changeWindows.mp member
    rw [count, sameId]
    exact holds.before old known leaseOwner (leased old leaseOwner isLeased)
  · exact holds.stopped

theorem budgeted_addWindow (holds : Budgeted base) (identity : WindowIdentity) :
    Budgeted (base.addWindow identity.queued) := by
  have kept : ∀ row ∈ base.windows.rows, row ∈ (base.addWindow identity.queued).windows.rows := by
    intro row member
    exact Table.mem_of_find (Table.find_insertUnless_of_found (Table.find_of_mem member))
  constructor
  · exact holds.drawn
  · exact holds.apart
  · intro row member
    rcases mem_addWindow member with known | ⟨rfl, fresh, -⟩
    · exact holds.counted row known
    · refine List.length_eq_zero_iff.mpr (List.filter_eq_nil_iff.mpr fun claim isClaim isFor => ?_)
      obtain ⟨old, known, sameId⟩ := holds.ofWindow claim isClaim
      have found := Table.find_of_mem known
      rw [show Keyed.key old = identity.queued.id from
        sameId.trans (of_decide_eq_true isFor), fresh] at found
      cases found
  · intro claim member
    obtain ⟨old, known, isFor⟩ := holds.ofWindow claim member
    exact ⟨old, kept old known, isFor⟩
  · intro row member leaseOwner isLeased
    rcases mem_addWindow member with known | ⟨rfl, -, -⟩
    · exact holds.leased row known leaseOwner isLeased
    · simp [SyncWindow.leasedBy, WindowIdentity.queued] at isLeased
  · exact holds.jobs
  · exact holds.fetched
  · exact holds.once
  · intro row member
    rcases mem_addWindow member with known | ⟨rfl, -, -⟩
    · exact holds.bounded row known
    · exact Nat.zero_le _
  · intro row member isOpen
    rcases mem_addWindow member with known | ⟨rfl, -, -⟩
    · exact holds.open' row known isOpen
    · exact ⟨Nat.zero_lt_succ _, Nat.zero_le _⟩
  · intro row member leaseOwner isLeased
    rcases mem_addWindow member with known | ⟨rfl, -, -⟩
    · exact holds.before row known leaseOwner isLeased
    · simp [SyncWindow.leasedBy, WindowIdentity.queued] at isLeased
  · exact holds.stopped

theorem mem_hits {row : SyncWindow} :
    row ∈ base.hits ids allowed ↔ row ∈ base.windows.rows ∧ (row.id ∈ ids && allowed row) = true :=
  List.mem_filter

theorem eq_of_sameId {left right : SyncWindow} (isLeft : left ∈ base.windows.rows)
    (isRight : right ∈ base.windows.rows) (sameId : left.id = right.id) : left = right := by
  have found := Table.find_of_mem isLeft
  rw [show Keyed.key left = Keyed.key right from sameId, Table.find_of_mem isRight] at found
  exact (Option.some.inj found).symm

/-- A change of one window hits it once. -/
theorem length_hits_le {id : Uuid} (within : ∀ other ∈ ids, other = id) :
    (base.hits ids allowed).length ≤ 1 := by
  have distinct : (base.hits ids allowed).Nodup :=
    (List.Nodup.of_map _ base.windows.distinct).filter _
  have same : ∀ left ∈ base.hits ids allowed, ∀ right ∈ base.hits ids allowed, left = right := by
    intro left isLeft right isRight
    obtain ⟨leftKnown, leftHit⟩ := mem_hits.mp isLeft
    obtain ⟨rightKnown, rightHit⟩ := mem_hits.mp isRight
    have leftId := within left.id (of_decide_eq_true (Bool.and_eq_true_iff.mp leftHit).1)
    have rightId := within right.id (of_decide_eq_true (Bool.and_eq_true_iff.mp rightHit).1)
    exact eq_of_sameId leftKnown rightKnown (leftId.trans rightId.symm)
  cases rows : base.hits ids allowed with
  | nil => exact Nat.zero_le _
  | cons first rest =>
      rw [rows] at distinct same
      cases rest with
      | nil => exact le_rfl
      | cons second rest =>
          have twice := same first List.mem_cons_self second (List.mem_cons_of_mem _ List.mem_cons_self)
          exact absurd (twice ▸ List.mem_cons_self) (List.nodup_cons.mp distinct).1

/-- An owner that was not drawn has made no calls. -/
theorem Budgeted.failedElsewhere_drawn (holds : Budgeted base) (id : Uuid) :
    base.failedElsewhere id base.drawn = base.failedCalls id := by
  refine List.filter_eq_self.mpr fun fetch isFailed => decide_eq_true fun isDrawn => ?_
  have isFetch := (List.mem_filter.mp (List.mem_filter.mp isFailed).1).1
  obtain ⟨claim, isClaim, -, sameOwner⟩ := holds.fetched fetch isFetch
  exact absurd (sameOwner.trans isDrawn) (holds.drawn claim isClaim).ne

theorem open_of_isDue {row : SyncWindow} {now : Instant} (due : row.isDue now = true) :
    row.state = .queued ∨ row.state = .retryable := by
  simp only [SyncWindow.isDue, SyncWindow.isOpen, Bool.and_eq_true, Bool.or_eq_true,
    decide_eq_true_eq] at due
  exact due.2.imp_right And.left

theorem mem_taken {claim : SyncJob} {now : Instant} : claim ∈ base.taken ids now ↔
    ∃ row ∈ base.hits ids (·.isDue now), ⟨row.id, row.attemptCount + 1, base.drawn⟩ = claim :=
  List.mem_map

theorem owners_taken {id : Uuid} {now : Instant} (within : ∀ other ∈ ids, other = id) :
    ((base.taken ids now).map SyncJob.leaseOwner).Nodup := by
  have short : ((base.taken ids now).map SyncJob.leaseOwner).length ≤ 1 := by
    rw [List.length_map, World.taken, List.length_map]
    exact length_hits_le within
  cases owners : (base.taken ids now).map SyncJob.leaseOwner with
  | nil => exact List.nodup_nil
  | cons first rest =>
      rw [owners, List.length_cons] at short
      rw [List.length_eq_zero_iff.mp (Nat.le_zero.mp (Nat.le_of_succ_le_succ short))]
      exact List.nodup_singleton first

/-- A window that is missed is not among the leases taken. -/
theorem taken_of_missed {row : SyncWindow} {now : Instant} (isRow : row ∈ base.windows.rows)
    (missed : (row.id ∈ ids && row.isDue now) = false) :
    (base.taken ids now).filter (·.syncWindowId = row.id) = [] := by
  refine List.filter_eq_nil_iff.mpr fun claim isClaim isFor => ?_
  obtain ⟨other, isHit, rfl⟩ := mem_taken.mp isClaim
  obtain ⟨isOther, hit⟩ := mem_hits.mp isHit
  obtain rfl := eq_of_sameId isOther isRow (of_decide_eq_true isFor)
  exact absurd hit (Bool.eq_false_iff.mp missed)

/-- A window that is hit is taken once. -/
theorem taken_of_hit {id : Uuid} {row : SyncWindow} {now : Instant}
    (within : ∀ other ∈ ids, other = id) (isHit : row ∈ base.hits ids (·.isDue now)) :
    (base.taken ids now).filter (·.syncWindowId = row.id) =
      [⟨row.id, row.attemptCount + 1, base.drawn⟩] := by
  have only : base.hits ids (·.isDue now) = [row] := by
    obtain ⟨other, rows⟩ := List.length_eq_one_iff.mp
      ((length_hits_le within).antisymm (List.length_pos_of_mem isHit))
    rw [rows] at isHit ⊢
    rw [List.mem_singleton.mp isHit]
  simp [World.taken, only]

/-- The windows after a claim: those that were missed, and those that were leased. -/
theorem mem_claim {row : SyncWindow} {now leaseDurationMs : Int}
    (member : row ∈ (base.claim ids now leaseDurationMs).windows.rows) :
    (row ∈ base.windows.rows ∧ (row.id ∈ ids && row.isDue now) = false) ∨
      ∃ old ∈ base.hits ids (·.isDue now),
        (Change.lease base.drawn (now + leaseDurationMs)).apply old = row := by
  obtain ⟨old, isOld, rfl⟩ := mem_changeWindows.mp member
  unfold SyncWindow.changed
  split
  · next hit => exact .inr ⟨old, mem_hits.mpr ⟨isOld, hit⟩, rfl⟩
  · next missed => exact .inl ⟨isOld, (Bool.not_eq_true _).mp missed⟩

theorem budgeted_claim {id : Uuid} {now leaseDurationMs : Int} (holds : Budgeted base)
    (within : ∀ other ∈ ids, other = id) : Budgeted (base.claim ids now leaseDurationMs) := by
  have opened : ∀ old ∈ base.hits ids (·.isDue now), old ∈ base.windows.rows ∧
      old.attemptCount < maxAttempts ∧ old.attemptCount ≤ (base.failedCalls old.id).length := by
    intro old isHit
    obtain ⟨isOld, hit⟩ := mem_hits.mp isHit
    exact ⟨isOld, holds.open' old isOld (open_of_isDue (Bool.and_eq_true_iff.mp hit).2)⟩
  constructor
  · intro claim member
    rcases List.mem_append.mp member with old | new
    · exact Nat.lt_succ_of_lt (holds.drawn claim old)
    · obtain ⟨row, -, rfl⟩ := mem_taken.mp new
      exact Nat.lt_succ_self base.drawn
  · show ((base.claims ++ base.taken ids now).map SyncJob.leaseOwner).Nodup
    rw [List.map_append]
    refine List.Nodup.append holds.apart (owners_taken within) fun owner old new => ?_
    obtain ⟨claim, isClaim, rfl⟩ := List.mem_map.mp old
    obtain ⟨other, isNew, sameOwner⟩ := List.mem_map.mp new
    obtain ⟨row, -, rfl⟩ := mem_taken.mp isNew
    exact absurd sameOwner.symm (holds.drawn claim isClaim).ne
  · intro row member
    show ((base.claims ++ base.taken ids now).filter _).length = _
    rw [List.filter_append, List.length_append]
    rcases mem_claim member with ⟨isOld, missed⟩ | ⟨old, isHit, rfl⟩
    · rw [taken_of_missed isOld missed, holds.counted row isOld]
      rfl
    · show (base.claims.filter (·.syncWindowId = old.id)).length +
        ((base.taken ids now).filter (·.syncWindowId = old.id)).length = old.attemptCount + 1
      rw [taken_of_hit within isHit, holds.counted old (opened old isHit).1]
      rfl
  · intro claim member
    rcases List.mem_append.mp member with old | new
    · obtain ⟨row, isRow, isFor⟩ := holds.ofWindow claim old
      exact ⟨_, mem_changeWindows.mpr ⟨row, isRow, rfl⟩,
        (congrArg WindowIdentity.id row.same_changed).trans isFor⟩
    · obtain ⟨row, isHit, rfl⟩ := mem_taken.mp new
      exact ⟨_, mem_changeWindows.mpr ⟨row, (opened row isHit).1, rfl⟩,
        congrArg WindowIdentity.id row.same_changed⟩
  · intro row member leaseOwner isLeased
    rcases mem_claim member with ⟨isOld, -⟩ | ⟨old, isHit, rfl⟩
    · exact List.mem_append_left _ (holds.leased row isOld leaseOwner isLeased)
    · simp only [SyncWindow.leasedBy, Change.lease, Bool.and_eq_true, decide_eq_true_eq,
        Option.some.injEq] at isLeased
      rw [← isLeased.2]
      exact List.mem_append_right _ (mem_taken.mpr ⟨old, isHit, rfl⟩)
  · exact fun job member => List.mem_append_left _ (holds.jobs job member)
  · intro fetch member
    obtain ⟨claim, isClaim, same⟩ := holds.fetched fetch member
    exact ⟨claim, List.mem_append_left _ isClaim, same⟩
  · exact holds.once
  · intro row member
    rcases mem_claim member with ⟨isOld, -⟩ | ⟨old, isHit, rfl⟩
    · exact holds.bounded row isOld
    · exact (opened old isHit).2.1
  · intro row member isOpen
    rcases mem_claim member with ⟨isOld, -⟩ | ⟨old, isHit, rfl⟩
    · exact holds.open' row isOld isOpen
    · simp [Change.lease] at isOpen
  · intro row member leaseOwner isLeased
    rcases mem_claim member with ⟨isOld, -⟩ | ⟨old, isHit, rfl⟩
    · exact holds.before row isOld leaseOwner isLeased
    · simp only [SyncWindow.leasedBy, Change.lease, Bool.and_eq_true, decide_eq_true_eq,
        Option.some.injEq] at isLeased
      rw [← isLeased.2]
      show old.attemptCount + 1 ≤ (base.failedElsewhere old.id base.drawn).length + 1
      rw [holds.failedElsewhere_drawn]
      exact Nat.succ_le_succ (opened old isHit).2.2
  · exact holds.stopped

/-- The first call under a lease that was taken. -/
theorem budgeted_fetch {fetch : Fetch} (holds : Budgeted base)
    (claimed : ∃ claim ∈ base.claims, claim.syncWindowId = fetch.syncWindowId ∧
      claim.leaseOwner = fetch.leaseOwner)
    (first : base.hasCalled fetch.syncWindowId fetch.leaseOwner = false) :
    Budgeted { base with fetches := base.fetches ++ [fetch] } := by
  have failed : ∀ id, (base.failedCalls id).Sublist
      (World.failedCalls { base with fetches := base.fetches ++ [fetch] } id) := fun id =>
    ((List.sublist_append_left _ _).filter _).filter _
  have elsewhere : ∀ id leaseOwner, (base.failedElsewhere id leaseOwner).Sublist
      (World.failedElsewhere { base with fetches := base.fetches ++ [fetch] } id leaseOwner) :=
    fun id leaseOwner => (failed id).filter _
  constructor
  · exact holds.drawn
  · exact holds.apart
  · exact holds.counted
  · exact holds.ofWindow
  · exact holds.leased
  · exact holds.jobs
  · intro other member
    rcases List.mem_append.mp member with known | new
    · exact holds.fetched other known
    · exact List.mem_singleton.mp new ▸ claimed
  · refine List.pairwise_append.mpr ⟨holds.once, List.pairwise_singleton _ _, ?_⟩
    intro known isKnown new isNew sameId sameOwner
    obtain rfl := List.mem_singleton.mp isNew
    refine Bool.false_ne_true (first.symm.trans (List.any_eq_true.mpr ⟨known, ?_, ?_⟩))
    · exact List.mem_filter.mpr ⟨isKnown, decide_eq_true sameId⟩
    · exact decide_eq_true sameOwner
  · exact holds.bounded
  · intro row member isOpen
    obtain ⟨left, enough⟩ := holds.open' row member isOpen
    exact ⟨left, enough.trans (failed row.id).length_le⟩
  · intro row member leaseOwner isLeased
    have enough := holds.before row member leaseOwner isLeased
    exact enough.trans (Nat.succ_le_succ (elsewhere row.id leaseOwner).length_le)
  · intro stop member retryable
    exact (holds.stopped stop member retryable).trans (failed stop.syncWindowId).length_le

theorem budgeted_stop {leaseOwner : LeaseOwner} {failure : Failure} (holds : Budgeted base)
    (enough : failure.retryable = true → ∀ row ∈ base.hits ids (·.leasedBy leaseOwner),
      maxAttempts ≤ (base.failedCalls row.id).length) :
    Budgeted (base.stop ids leaseOwner failure) := by
  have finished : Budgeted (base.changeWindows ids (·.leasedBy leaseOwner)
      (.finish .terminal (some failure.code))) := by
    refine budgeted_changeWindows holds (fun _ => rfl) (fun row owner leased => ?_)
      fun row _ _ _ isOpen => ?_
    · simp [SyncWindow.leasedBy, Change.finish] at leased
    · simp [Change.finish] at isOpen
  refine { finished with stopped := fun stop member retryable => ?_ }
  rcases List.mem_append.mp member with known | new
  · exact holds.stopped stop known retryable
  · obtain ⟨row, isHit, rfl⟩ := List.mem_map.mp new
    exact enough retryable row isHit

theorem budgeted_enqueue {job : SyncJob} (holds : Budgeted base) (claimed : job ∈ base.claims) :
    Budgeted (base.enqueue job) := by
  unfold World.enqueue
  split
  · exact holds
  · refine { holds with jobs := fun other member => ?_ }
    rcases List.mem_append.mp member with known | new
    · exact holds.jobs other known
    · exact List.mem_singleton.mp new ▸ claimed

/-- The call under a lease is one more than those under other leases. -/
theorem failedElsewhere_lt {id : Uuid} {leaseOwner : LeaseOwner}
    (failed : base.hasFailed id leaseOwner = true) :
    (base.failedElsewhere id leaseOwner).length < (base.failedCalls id).length := by
  obtain ⟨fetch, isFailed, sameOwner⟩ := List.any_eq_true.mp failed
  refine List.length_filter_lt_length_iff_exists.mpr ⟨fetch, isFailed, ?_⟩
  simpa using sameOwner

/-- An attempt whose call failed is one that failed. -/
theorem Budgeted.count_le (holds : Budgeted base) {row : SyncWindow} {leaseOwner : LeaseOwner}
    (isRow : row ∈ base.windows.rows) (leased : row.leasedBy leaseOwner = true)
    (failed : base.hasFailed row.id leaseOwner = true) :
    row.attemptCount ≤ (base.failedCalls row.id).length :=
  (holds.before row isRow leaseOwner leased).trans (failedElsewhere_lt failed)

/-- A lease whose attempt is spent may be given back. -/
theorem Budgeted.retry_of_isSpent (holds : Budgeted base) {row : SyncWindow}
    (isRow : row ∈ base.windows.rows) (leased : row.state = .leased)
    (spent : row.isSpent base = true) : row.attemptCount < maxAttempts ∧
      row.attemptCount ≤ (base.failedCalls row.id).length := by
  obtain ⟨left, failed⟩ := Bool.and_eq_true_iff.mp spent
  obtain ⟨leaseOwner, isOwner, failed⟩ := (Option.any_eq_true ..).mp failed
  refine ⟨of_decide_eq_true left, holds.count_le isRow ?_ failed⟩
  simp [SyncWindow.leasedBy, leased, isOwner]

end Writes

/-! ### The protocol -/

variable {around : Surroundings} {pid : Pid} {call : Call}

/-- Every call keeps the budget, and relies on the leases that were taken. -/
def budget (around : Surroundings) : Protocol (system around) where
  discipline := faithful
  invariant := Budgeted
  rely := fun _ before after => before.claims ⊆ after.claims
  rely_refl _ _ := List.Subset.refl _
  rely_trans _ := List.Subset.trans

theorem uniform_budget : Uniform (budget around) := fun _ _ _ _ relied => relied

theorem stable_claimed (job : SyncJob) : (budget around).Stable fun world => job ∈ world.claims :=
  fun _ _ _ relied claimed => relied claimed

theorem claims_of_exec {choice : Nat} {asked : Statement} {view : World}
    {effect : Effect World Key asked.Reply}
    (executed : exec around pid choice asked view = .ok effect) (base : World) :
    base.claims ⊆ (effect.write base).claims := by
  cases asked <;> simp only [exec] at executed
  case createSyncWindow identity =>
    obtain ⟨-, executed⟩ := ok_of_unless executed
    cases executed
    exact List.Subset.refl _
  case createSnapshot snapshot =>
    split at executed <;> (cases executed; exact List.Subset.refl _)
  case claimSyncWindow =>
    cases executed
    exact List.subset_append_left _ _
  case addJob job =>
    cases executed
    show base.claims ⊆ (base.enqueue job).claims
    unfold World.enqueue
    split <;> exact List.Subset.refl _
  all_goals
    cases executed
    exact List.Subset.refl _

/-- A statement whose write keeps the budget anywhere. -/
def Statement.isFrugal : Statement → Prop
  | .recoverExpiredLeases .. | .releaseAfterEnqueueFailure .. | .markRetryable ..
  | .markTerminal .. | .addJob .. | .fetch .. => False
  | _ => True

private theorem frugal_of_exec {choice : Nat} {asked : Statement} {view : World}
    {effect : Effect World Key asked.Reply} (isFrugal : asked.isFrugal)
    (executed : exec around pid choice asked view = .ok effect) {base : World}
    (holds : Budgeted base) : Budgeted (effect.write base) := by
  cases asked <;> simp only [exec] at executed
  case createSyncWindow identity =>
    obtain ⟨-, executed⟩ := ok_of_unless executed
    cases executed
    exact budgeted_addWindow holds _
  case createSnapshot snapshot =>
    split at executed
    · cases executed
      exact holds
    · cases executed
      exact budgeted_of_same holds rfl rfl rfl rfl rfl rfl
  case claimSyncWindow id now leaseDurationMs =>
    cases executed
    exact budgeted_claim holds fun other member =>
      List.mem_singleton.mp (List.mem_filter.mp member).1
  case markSucceeded id leaseOwner =>
    cases executed
    refine budgeted_changeWindows holds (fun _ => rfl) (fun row owner leased => ?_)
      fun row _ _ _ isOpen => ?_
    · simp [SyncWindow.leasedBy, Change.finish] at leased
    · simp [Change.finish] at isOpen
  case refreshDue ids now =>
    cases executed
    exact budgeted_changeWindows holds (fun _ => rfl) (fun _ _ leased => leased)
      fun row member _ _ isOpen => holds.open' row member isOpen
  case recoverExpiredLeases | releaseAfterEnqueueFailure | markRetryable | markTerminal | addJob
      | fetch => exact isFrugal.elim
  all_goals
    cases executed
    exact budgeted_of_same holds rfl rfl rfl rfl rfl rfl

theorem spares_of_isFrugal {asked : Statement} (isFrugal : asked.isFrugal) :
    (budget around).Spares pid call asked :=
  fun _ _ _ _ executed base holds _ => ⟨@frugal_of_exec around pid _ _ _ _ isFrugal executed _ holds,
    fun _ _ => @claims_of_exec around pid _ _ _ _ executed base⟩

theorem frugal_of_shared (asked : Statement) (isShared : asked.isShared) :
    (budget around).Spares pid call asked :=
  spares_of_isFrugal (by cases asked <;> trivial)

/-- One statement under a fact that lasts. -/
theorem ensures_keeping {asked : Statement} {fact : World → Prop}
    (keeps : ∀ choice world effect, asked.isFaithful world = true →
      exec around pid choice asked world = .ok effect → Budgeted world → fact world →
        Budgeted (effect.write world)) :
    (budget around).Ensures pid call fact (ask asked) fun _ _ => True := by
  have kept : (budget around).Ensures pid call fact (ask asked) (returning fun _ _ => True) :=
    ensures_ask fun choice world effect admitted executed holds given =>
      ⟨keeps choice world effect admitted executed holds given,
        fun _ _ => @claims_of_exec around pid _ _ _ _ executed world, fun _ _ _ => trivial⟩
  exact kept.mono (fun _ given => given) fun _ _ _ => trivial

/-! ### The reconciler -/

theorem maintains_recover (now : Instant) :
    (budget around).Maintains pid call (ask (.recoverExpiredLeases now)) := by
  refine Ensures.maintains (ensures_keeping fun choice world effect faithful executed holds _ => ?_)
  cases executed
  refine budgeted_changeWindows holds (fun _ => rfl) (fun row owner leased => ?_)
    fun row isRow _ expired _ => ?_
  · simp [SyncWindow.leasedBy, Change.retry] at leased
  · have spent := List.all_eq_true.mp faithful row isRow
    rw [expired] at spent
    exact holds.retry_of_isSpent isRow (of_decide_eq_true (Bool.and_eq_true_iff.mp expired).1) spent

theorem maintains_release (id : Uuid) (leaseOwner : LeaseOwner) (nextAttemptAt : Instant) :
    (budget around).Maintains pid call
      (ask (.releaseAfterEnqueueFailure id leaseOwner nextAttemptAt)) := by
  refine Ensures.maintains (ensures_keeping fun choice world effect faithful executed holds _ => ?_)
  cases executed
  refine budgeted_changeWindows holds (fun _ => rfl) (fun row owner leased => ?_)
    fun row isRow isOne leased _ => ?_
  · simp [SyncWindow.leasedBy, Change.retry] at leased
  · have found := Table.find_of_mem isRow
    rw [show Keyed.key row = id from
      List.mem_singleton.mp (List.mem_filter.mp isOne).1] at found
    simp only [Statement.isFaithful, found, Option.all_some, leased, Bool.not_true,
      Bool.false_or] at faithful
    exact holds.retry_of_isSpent isRow (of_decide_eq_true (Bool.and_eq_true_iff.mp leased).1)
      faithful

/-- A claim hands out a lease that was taken. -/
theorem ensures_claim (id : Uuid) (now duration : Int) :
    (budget around).Ensures pid call (fun _ => True) (claimSyncWindow id now duration)
      (returning fun found world => ∀ window, found = some window →
        ⟨id, window.attemptCount, window.leaseOwner.getD 0⟩ ∈ world.claims) := by
  have claim : (budget around).Maintains pid call (ask (.claimSyncWindow id now duration)) :=
    (@spares_of_isFrugal around pid call (.claimSyncWindow id now duration) trivial).maintains
  refine ensures_bind claim.ensures (fun reply => ?_) fun _ _ _ => trivial
  cases reply with
  | none =>
      refine ensures_pure fun _ _ window isClaimed => ?_
      cases isClaimed
  | some leaseOwner =>
      have read : (budget around).Ensures pid call (fun _ => True) (ask (.getSyncWindowById id))
          (returning fun found world => ∀ window, found = some window →
            window.leasedBy leaseOwner = true →
              ⟨id, window.attemptCount, leaseOwner⟩ ∈ world.claims) := by
        refine ensures_ask fun choice world effect _ executed holds _ => ?_
        have executed : exec around pid choice (.getSyncWindowById id) world = .ok effect := executed
        cases executed
        refine ⟨holds, guarantees_refl world, fun later relied _ window found leased => relied ?_⟩
        have claimed := holds.leased window (Table.mem_of_find found) leaseOwner leased
        rwa [show window.id = id from Table.key_of_find found] at claimed
      refine ensures_bind read (fun found => ?_) fun _ _ _ => trivial
      refine ensures_pure fun world given window isClaimed => ?_
      obtain ⟨found, leased⟩ := Option.filter_eq_some_iff.mp isClaimed
      have isOwner : window.leaseOwner = some leaseOwner :=
        of_decide_eq_true (Bool.and_eq_true_iff.mp leased).2
      rw [isOwner]
      exact given window found leased

theorem ensures_queue (job : SyncJob) :
    (budget around).Ensures pid call (fun world => job ∈ world.claims)
      (do
        let added ← ask (.addJob job)
        require added .queueFailure) fun _ _ => True := by
  have added : (budget around).Ensures pid call (fun world => job ∈ world.claims)
      (ask (.addJob job)) fun _ _ => True := by
    refine ensures_keeping fun choice world effect _ executed holds claimed => ?_
    cases executed
    exact budgeted_enqueue holds claimed
  refine ensures_bind added (fun reply => ?_) fun _ _ _ => trivial
  exact (maintains_of_sparing (asks_require (P := (budget around).Spares pid call))).ensures

theorem maintains_dispatch_budget (now : Instant) (ids : List Uuid) :
    (budget around).Maintains pid call (dispatch now ids) := by
  induction ids with
  | nil => exact maintains_pure ()
  | cons windowId rest inductionHypothesis =>
      suffices ensures : (budget around).Ensures pid call (fun _ => True)
          (dispatch now (windowId :: rest)) fun _ _ => True from ensures.maintains
      unfold dispatch
      refine ensures_bind (ensures_claim windowId now leaseDurationMs) (fun claimed => ?_)
        fun _ _ _ => trivial
      cases claimed with
      | none => exact inductionHypothesis.ensures
      | some window =>
          have queued := @ensures_queue around pid call
            ⟨windowId, window.attemptCount, window.leaseOwner.getD 0⟩
          have released : (budget around).Maintains pid call (do
              let _ ← ask (.releaseAfterEnqueueFailure windowId (window.leaseOwner.getD 0)
                (now + retryBaseMs))) :=
            maintains_bind (maintains_release windowId _ _) fun _ => maintains_pure ()
          have attempt := ensures_tryCatch queued (fun _ => released.ensures) fun _ _ _ => trivial
          refine ensures_bind (attempt.mono (fun world given => given window rfl) fun _ _ done => done)
            (fun _ => ?_) fun _ _ _ => trivial
          exact inductionHypothesis.ensures

theorem maintains_reconcile_budget (now : Instant) :
    (budget around).Maintains pid call (reconcileOnce now) := by
  refine maintains_bind (frugal_of_shared (.listEligiblePublicationIds _) trivial).maintains ?_
  intro publicationIds
  refine maintains_bind (maintains_of_sparing (asks_discover frugal_of_shared publicationIds)) ?_
  intro _
  refine maintains_bind (maintains_recover now) fun _ => ?_
  refine maintains_bind (frugal_of_shared (.listDueSyncWindowIds now _) trivial).maintains ?_
  intro dueIds
  exact maintains_dispatch_budget now dueIds

theorem maintains_refresh_budget (businessId publishingResultId : Uuid) (now : Instant) :
    (budget around).Maintains pid call (refresh businessId publishingResultId now) := by
  refine maintains_bind (maintains_of_sparing
    (asks_getPublicationContext (reads_of_shared frugal_of_shared) _ _)) ?_
  rintro (_ | context)
  · exact @maintains_throw _ _ _ _ _ (budget around) pid call _ _
  refine maintains_bind (maintains_of_sparing
    (asks_ensureSyncWindowsForResult frugal_of_shared _ _)) fun _ => ?_
  refine maintains_bind (maintains_of_sparing (asks_requestDueRefresh frugal_of_shared _ _ _)) ?_
  intro updated
  split
  · exact maintains_pure ()
  · exact maintains_reconcile_budget now

/-! ### The worker -/

section Worker

variable {job : SyncJob}

/-- The lease of a job is that of its attempt. -/
theorem Budgeted.attempt_eq {world : World} (holds : Budgeted world) (claimed : job ∈ world.claims)
    {row : SyncWindow} (found : world.windows.find job.syncWindowId = some row)
    (leased : row.leasedBy job.leaseOwner = true) : row.attemptCount = job.attempt := by
  have isClaim := holds.leased row (Table.mem_of_find found) job.leaseOwner leased
  have same := List.inj_on_of_nodup_map holds.apart isClaim claimed rfl
  exact congrArg SyncJob.attempt same

/-- A retryable failure under the lease is that of the call. -/
theorem hasFailed_of_faithful {world : World} {failure : Failure} {row : SyncWindow}
    (retryable : failure.retryable = true)
    (found : world.windows.find job.syncWindowId = some row)
    (leased : row.leasedBy job.leaseOwner = true)
    (faithful : (!failure.retryable || (world.windows.find job.syncWindowId).all fun row =>
      !row.leasedBy job.leaseOwner || world.hasFailed job.syncWindowId job.leaseOwner) = true) :
    world.hasFailed row.id job.leaseOwner = true := by
  rw [show row.id = job.syncWindowId from Table.key_of_find found]
  simpa [retryable, found, leased] using faithful

theorem ensures_markRetryable {failure : Failure} {nextAttemptAt : Instant}
    (retryable : failure.retryable = true) (left : job.attempt < maxAttempts) :
    (budget around).Ensures pid call (fun world => job ∈ world.claims)
      (ask (.markRetryable job.syncWindowId job.leaseOwner failure nextAttemptAt))
      fun _ _ => True := by
  refine ensures_keeping fun choice world effect faithful executed holds claimed => ?_
  cases executed
  refine budgeted_changeWindows holds (fun _ => rfl) (fun row owner leased => ?_)
    fun row isRow isOne leased _ => ?_
  · simp [SyncWindow.leasedBy, Change.retry] at leased
  · have sameId : row.id = job.syncWindowId :=
      List.mem_singleton.mp (List.mem_filter.mp isOne).1
    have found := Table.find_of_mem isRow
    rw [show Keyed.key row = job.syncWindowId from sameId] at found
    have failed := hasFailed_of_faithful retryable found leased faithful
    exact ⟨holds.attempt_eq claimed found leased ▸ left, holds.count_le isRow leased failed⟩

/-- A window becomes terminal with a retryable failure only after its last attempt. -/
theorem ensures_markTerminal {failure : Failure}
    (spent : failure.retryable = true → maxAttempts ≤ job.attempt) :
    (budget around).Ensures pid call (fun world => job ∈ world.claims)
      (ask (.markTerminal job.syncWindowId job.leaseOwner failure)) fun _ _ => True := by
  refine ensures_keeping fun choice world effect faithful executed holds claimed => ?_
  cases executed
  refine budgeted_stop holds fun retryable row isHit => ?_
  obtain ⟨isRow, hit⟩ := mem_hits.mp isHit
  obtain ⟨isOne, leased⟩ := Bool.and_eq_true_iff.mp hit
  have sameId : row.id = job.syncWindowId :=
    List.mem_singleton.mp (List.mem_filter.mp (of_decide_eq_true isOne)).1
  have found := Table.find_of_mem isRow
  rw [show Keyed.key row = job.syncWindowId from sameId] at found
  have failed := hasFailed_of_faithful retryable found leased faithful
  have count := holds.count_le isRow leased failed
  rw [holds.attempt_eq claimed found leased] at count
  exact (spent retryable).trans count

theorem ensures_handleFailure (attemptCount : Nat) (sameAttempt : attemptCount = job.attempt)
    (error : SyncError) : (budget around).Ensures pid call (fun world => job ∈ world.claims)
      (handleFailure attemptCount job error) fun _ _ => True := by
  unfold handleFailure
  dsimp only
  split
  · next again =>
    simp only [Bool.and_eq_true, decide_eq_true_eq, sameAttempt] at again
    have clock := (@frugal_of_shared around pid call .clock trivial).maintains.frame uniform_budget
      (stable_claimed job)
    refine ensures_bind clock (fun now => ?_) fun _ _ _ => trivial
    exact ensures_bind (ensures_markRetryable again.1 again.2)
      (fun _ => ensures_pure fun _ _ => trivial) fun _ _ _ => trivial
  · next spent =>
    refine ensures_bind (ensures_markTerminal fun retryable => ?_)
      (fun _ => ensures_pure fun _ _ => trivial) fun _ _ _ => trivial
    simpa [retryable, sameAttempt] using spent

theorem ensures_collect (window : SyncWindow) (context : PublicationContext) :
    (budget around).Ensures pid call (fun world => job ∈ world.claims)
      (collect around job window context) fun _ _ => True := by
  have fetched : (budget around).Ensures pid call (fun world => job ∈ world.claims)
      (ask (.fetch job.syncWindowId job.leaseOwner context)) fun _ _ => True := by
    refine ensures_keeping fun choice world effect faithful executed holds claimed => ?_
    cases executed
    refine budgeted_fetch holds ⟨job, claimed, rfl, rfl⟩ ?_
    simpa [Statement.isFaithful] using faithful
  refine ensures_bind fetched (fun answer => ?_) fun _ _ _ => trivial
  cases answer with
  | error failure => exact ensures_throw fun _ _ => trivial
  | ok observation =>
      refine Maintains.ensures (maintains_bind (maintains_of_sparing asks_require) fun _ => ?_)
      refine maintains_of_asks (asks_bind (asks_ask (frugal_of_shared _ trivial)) fun found => ?_)
      split
      · exact asks_throw _
      · refine asks_bind asks_require fun _ => ?_
        refine asks_bind (asks_insertMetricSnapshot (reads_of_shared frugal_of_shared) around _
          (spares_of_isFrugal trivial)) fun _ => ?_
        exact asks_bind (asks_ask (spares_of_isFrugal trivial)) fun _ => asks_require

theorem ensures_process :
    (budget around).Ensures pid call (fun world => job ∈ world.claims) (process around job)
      fun _ _ => True := by
  have read : (budget around).Ensures pid call (fun world => job ∈ world.claims)
      (ask (.getSyncWindowById job.syncWindowId)) (returning fun found _ =>
        ∀ window, found = some window → window.leasedBy job.leaseOwner = true →
          window.attemptCount = job.attempt) := by
    refine ensures_ask fun choice world effect _ executed holds claimed => ?_
    have executed : exec around pid choice (.getSyncWindowById job.syncWindowId) world =
      .ok effect := executed
    cases executed
    exact ⟨holds, guarantees_refl world, fun later _ _ window found leased =>
      holds.attempt_eq claimed found leased⟩
  have framed := (read.frame uniform_budget (stable_claimed job)).mono
    (fun _ claimed => ⟨claimed, claimed⟩) fun _ _ ends => ends
  refine ensures_bind framed (fun found => ?_) fun _ _ _ => trivial
  split
  · exact ensures_pure fun _ _ => trivial
  next window kept =>
  obtain ⟨isFound, leased⟩ := Option.filter_eq_some_iff.mp kept
  refine fun world holds given => ?_
  have sameAttempt := given.1 window isFound leased
  refine (?_ : (budget around).Ensures pid call (fun world => job ∈ world.claims) _ _) world holds
    given.2
  have context := (maintains_of_sparing (asks_getPublicationContext
    (reads_of_shared (@frugal_of_shared around pid call)) window.publishingResultId
    window.businessId)).frame uniform_budget (stable_claimed job)
  refine ensures_bind context (fun context => ?_) fun _ _ _ => trivial
  cases context with
  | none =>
      exact ensures_bind (ensures_markTerminal nofun) (fun _ => ensures_pure fun _ _ => trivial)
        fun _ _ _ => trivial
  | some context =>
  have existing := (maintains_of_sparing (asks_getSnapshotForWindow
    (reads_of_shared (@frugal_of_shared around pid call)) around window.businessId
    window.publishingResultId window.window)).frame uniform_budget (stable_claimed job)
  refine ensures_bind existing (fun existing => ?_) fun _ _ _ => trivial
  cases existing with
  | some snapshot =>
      exact Maintains.ensures (maintains_bind (@spares_of_isFrugal around pid call
        (.markSucceeded job.syncWindowId job.leaseOwner) trivial).maintains fun _ =>
          maintains_pure ())
  | none =>
      have collected := (@ensures_collect around pid call job window context).frame uniform_budget (stable_claimed job)
      refine ensures_tryCatch (collected.mono (fun _ claimed => ⟨claimed, claimed⟩)
        fun _ _ ends => ends) (fun error => ?_) fun _ _ _ => trivial
      exact (ensures_handleFailure window.attemptCount sameAttempt error).mono
        (fun _ given => given.2) fun _ _ _ => trivial

end Worker

/-! ### Every run -/

/-- A worker starts with a job whose lease was taken. -/
private def Call.begins : Call → World → Prop
  | process job, world => job ∈ world.claims
  | _, _ => True

theorem safe_budget : (budget around).Safe fun _ _ => True := by
  refine @safe_of_ensures sync World Key Call (system around) (budget around) _ Call.begins
    (fun pid call world later _ enabled holds relied => ?_) fun pid call _ => ?_
  · cases call with
    | process job => exact relied (holds.jobs job (of_decide_eq_true enabled))
    | registerBusiness | publish | reconcile | refresh => trivial
  · cases call with
    | process job => exact ensures_process
    | registerBusiness businessId ownerUserId =>
        exact (frugal_of_shared (.registerBusiness businessId ownerUserId) trivial).maintains.ensures
    | publish result => exact (frugal_of_shared (.publish result) trivial).maintains.ensures
    | reconcile now => exact (maintains_reconcile_budget now).ensures
    | refresh businessId publishingResultId now =>
        exact (maintains_refresh_budget businessId publishingResultId now).ensures

/-- In a run of faithful steps the provider is called at most as often as there are attempts, and a
retryable failure ends a window only after that many calls have failed. -/
theorem faithful_runs_within_budget {machine : Machine sync World Key Call}
    (reached : Reaches (system around) faithful World.empty machine) :
    (∀ id, (machine.world.calls id).length ≤ maxAttempts) ∧
    ∀ stop ∈ machine.world.stopped, stop.failure.retryable = true →
      maxAttempts ≤ (machine.world.failedCalls stop.syncWindowId).length := by
  have budgeted : Budgeted machine.world :=
    @invariant_of_reaches sync World Key Call (system around) (budget around) _ _ _ _ safe_budget
      budgeted_empty reached
  exact ⟨budgeted.calls_le, budgeted.stopped⟩

/-! ### Two runs -/

/-- A worker whose call fails, and which is done after `count` more steps. -/
def failingWorker (pid : Pid) (attempt count : Nat) : List (Move Call) :=
  alone pid (.process ⟨0, attempt, attempt - 1⟩) 4 ++ .step pid 1 :: steps pid count

/-- Another attempt of the window is claimed and queued. -/
def anotherAttempt (pid : Pid) : List (Move Call) :=
  alone pid (.reconcile (nextDay + retryBaseMs * pid)) 5

/-- Five attempts, each with a call that fails. -/
def fiveFailures : List (Move Call) :=
  queuedMoves ++ failingWorker 3 1 2 ++ anotherAttempt 4 ++ .step 4 0 :: failingWorker 5 2 2 ++
    anotherAttempt 6 ++ .step 6 0 :: failingWorker 7 3 2 ++ anotherAttempt 8 ++
    .step 8 0 :: failingWorker 9 4 2 ++ anotherAttempt 10 ++ .step 10 0 :: failingWorker 11 5 1

theorem five_failures_stop : ∃ machine, Reaches (system plainSurroundings) faithful World.empty machine ∧
    machine.world.stopped = [⟨0, ⟨.providerUnavailable, true⟩⟩] ∧
    maxAttempts ≤ (machine.world.failedCalls 0).length := by
  have played : ((system plainSurroundings).playChecked (fun _ _ asked world =>
      asked.isFaithful world) (.idle World.empty) fiveFailures).map (fun machine =>
        machine.world.stopped) = some [⟨0, ⟨.providerUnavailable, true⟩⟩] := by
    decide +kernel
  obtain ⟨machine, moved, stopped⟩ := Option.map_eq_some_iff.mp played
  have reached : Reaches (system plainSurroundings) faithful World.empty machine :=
    Reaches.playChecked (fun _ => trivial) rfl (fun _ _ _ _ passes => passes) Reaches.idle moved
  refine ⟨machine, reached, stopped, ?_⟩
  refine (faithful_runs_within_budget reached).2 ⟨0, ⟨.providerUnavailable, true⟩⟩ ?_ rfl
  rw [stopped]
  exact List.mem_singleton_self _

/-- The queue fails to take the job, and the window is given back. -/
def unqueued (pid : Pid) : List (Move Call) := anotherAttempt pid ++ [.step pid 1, .step pid 0]

/-- A window whose jobs could not be queued stops at its first failed call. -/
theorem unqueued_attempts_spend_budget : ¬∀ around machine,
    Reaches (system around) .free World.empty machine →
      (∀ id, (machine.world.calls id).length ≤ maxAttempts) ∧
      ∀ stop ∈ machine.world.stopped, stop.failure.retryable = true →
        maxAttempts ≤ (machine.world.failedCalls stop.syncWindowId).length := by
  intro claimed
  have played : ((system plainSurroundings).play (.idle World.empty)
      (queuedMoves.dropLast ++ [.step 2 1, .step 2 0] ++ unqueued 4 ++ unqueued 6 ++ unqueued 8 ++
        anotherAttempt 10 ++ .step 10 0 :: failingWorker 11 5 1)).map (fun machine =>
          (machine.world.stopped, (machine.world.failedCalls 0).length)) =
      some ([⟨0, ⟨.providerUnavailable, true⟩⟩], 1) := by
    decide +kernel
  obtain ⟨machine, reached, observed⟩ := Reaches.of_play played
  obtain ⟨stopped, count⟩ := Prod.ext_iff.mp observed
  have enough := (claimed _ machine reached).2 ⟨0, ⟨.providerUnavailable, true⟩⟩ (by
    rw [show machine.world.stopped = _ from stopped]
    exact List.mem_singleton_self _) rfl
  rw [show (machine.world.failedCalls 0).length = 1 from count] at enough
  exact absurd enough (by decide)

end MarketMind.Performance.Sync
