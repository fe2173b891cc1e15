import Mathlib.Algebra.Group.Int.Defs
import MarketMind.Billing.Store
import MarketMind.Transactions.Table
import Mathlib.Data.List.Sort

/-!
Owns the delivery of payment confirmations: the outbox rows with their leases, the
BullMQ queue of their e-mails, the reconciler that offers due events to the queue,
and the worker that sends them.

A call reads the clock once, so calls carry the time at which they run. The error text
that a row keeps for operators is left out.
-/

namespace MarketMind.Billing.Outbox

open MarketMind.Transactions

/-- Milliseconds since the epoch. -/
abbrev Instant := Int

/-! ### Tables -/

inductive OutboxState
  | pending
  | processing
  | sent
  | failed
deriving DecidableEq, Repr

/-- Who holds a claimed event: a pass of the reconciler, under its `randomUUID()`, or
whoever runs the job of an event. -/
inductive LeaseOwner
  | reconciler (pass : Uuid)
  | worker (eventId : Uuid)
deriving DecidableEq, Repr

structure PaymentConfirmedPayload where
  transactionRef : Option String
  bundleCode : Option String
  bundleNameEn : Option String
  bundleNameAr : Option String
  pointsGranted : Option Int
  amountEgp : Option Int
  currency : Option String
  confirmedAt : Option Instant
deriving DecidableEq, Repr

structure BillingOutboxRow where
  id : Uuid
  billingAccountId : Uuid
  dedupeKey : String
  payload : PaymentConfirmedPayload
  createdAt : Instant
  state : OutboxState
  attempts : Nat
  leaseOwner : Option LeaseOwner
  leaseExpiresAt : Option Instant
  nextAttemptAt : Option Instant
  dispatchedAt : Option Instant
deriving DecidableEq, Repr

instance : Keyed BillingOutboxRow := ⟨BillingOutboxRow.id⟩

inductive JobState
  | waiting
  | delayed
  | active
  | completed
  | failed
deriving DecidableEq, Repr

/-- A job of the queue; its id is made of the event that it carries. -/
structure QueuedJob where
  eventId : Uuid
  state : JobState
deriving DecidableEq, Repr

structure Mail where
  ownerUserId : Uuid
  bundleNameEn : String
  bundleNameAr : String
  pointsGranted : Int
  amountEgp : Int
  currency : String
  transactionRef : String
  confirmedAt : Instant
deriving DecidableEq, Repr

/-- The committed tables, the queue, and the mails that were accepted. `accounts` lists
(account, owner). -/
structure World where
  accounts : List (Uuid × Uuid)
  events : Table BillingOutboxRow
  jobs : List QueuedJob
  mails : List Mail
deriving DecidableEq

def World.empty : World := ⟨[], Table.empty, [], []⟩

/-- The rows that exclude concurrent writers. -/
inductive Key
  | event (id : Uuid)
  | dedupe (dedupeKey : String)
deriving DecidableEq, Repr

def Agree (key : Key) (left right : World) : Prop :=
  match key with
  | .event id => left.events.find id = right.events.find id
  | .dedupe dedupeKey =>
      left.events.keysOf (·.dedupeKey = dedupeKey) = right.events.keysOf (·.dedupeKey = dedupeKey)

/-! ### Statements -/

inductive OutboxError
  | uniqueViolation
  | transactionAborted
  | databaseFailure
  | mailRefused
  | accountNotFound (billingAccountId : Uuid)
deriving DecidableEq, Repr

inductive Statement
  /-- The payment transaction emits an event. -/
  | createEvent (row : BillingOutboxRow)
  | openAccount (ownerUserId : Uuid)
  | expireLeases (now : Instant)
  | lockDue (now : Instant) (limit : Nat)
  | claimPending (id : Uuid) (leaseOwner : LeaseOwner) (leaseExpiresAt : Instant)
  | findClaimed (ids : List Uuid)
  | findEvent (id : Uuid)
  | releaseClaim (id : Uuid) (leaseOwner : LeaseOwner)
  | markDispatched (id : Uuid) (leaseOwner : LeaseOwner) (dispatchedAt : Instant)
  | findAttempts (id : Uuid) (leaseOwner : LeaseOwner)
  | recordFailure (id : Uuid) (leaseOwner : LeaseOwner) (state : OutboxState) (attempts : Nat)
      (nextAttemptAt : Option Instant)
  | findOwner (billingAccountId : Uuid)
  | addJob (eventId : Uuid)
  /-- The queue moves a job on. -/
  | turnJob (eventId : Uuid) (state : JobState)
  | sendMail (mail : Mail)
deriving DecidableEq, Repr

abbrev Statement.Reply : Statement → Type
  | createEvent _ | openAccount _ | expireLeases _ | addJob _ | turnJob _ _ | sendMail _ => Unit
  | lockDue _ _ => List Uuid
  | claimPending _ _ _ | releaseClaim _ _ | markDispatched _ _ _ | recordFailure _ _ _ _ _ => Bool
  | findClaimed _ => List BillingOutboxRow
  | findEvent _ => Option BillingOutboxRow
  | findAttempts _ _ => Option Nat
  | findOwner _ => Option Uuid

/-- The signature of the outbox services. -/
def outbox : Signature := ⟨Statement, Statement.Reply, OutboxError⟩

/-! ### What a statement does -/

def isDue (now : Instant) (row : BillingOutboxRow) : Bool :=
  row.state = .pending ∧ row.nextAttemptAt.all (· ≤ now)

def isExpired (now : Instant) (row : BillingOutboxRow) : Bool :=
  row.state = .processing ∧ row.leaseExpiresAt.any (· < now)

/-- Oldest first; rows of one instant in the order in which they were written. -/
def oldestFirst (rows : List BillingOutboxRow) : List BillingOutboxRow :=
  rows.insertionSort fun left right => left.createdAt ≤ right.createdAt

/-- The pending events whose time has come, oldest first. -/
def World.due (world : World) (now : Instant) : List BillingOutboxRow :=
  oldestFirst (world.events.rows.filter (isDue now))

/-- `SKIP LOCKED`: the rows whose bit is set in `choice` are held by other transactions. -/
def skipLocked (choice : Nat) : List BillingOutboxRow → List BillingOutboxRow
  | [] => []
  | row :: rest =>
      if choice % 2 = 1 then skipLocked (choice / 2) rest
      else row :: skipLocked (choice / 2) rest

def BillingOutboxRow.expire (now : Instant) (row : BillingOutboxRow) : BillingOutboxRow :=
  { row with state := .pending, leaseOwner := none, leaseExpiresAt := none, nextAttemptAt := some now }

def BillingOutboxRow.claim (leaseOwner : LeaseOwner) (leaseExpiresAt : Instant)
    (row : BillingOutboxRow) : BillingOutboxRow :=
  { row with
    state := .processing
    leaseOwner := some leaseOwner
    leaseExpiresAt := some leaseExpiresAt }

def BillingOutboxRow.release (row : BillingOutboxRow) : BillingOutboxRow :=
  { row with state := .pending, leaseOwner := none, leaseExpiresAt := none }

def BillingOutboxRow.dispatch (dispatchedAt : Instant) (row : BillingOutboxRow) :
    BillingOutboxRow :=
  { row with
    state := .sent
    dispatchedAt := some dispatchedAt
    leaseOwner := none
    leaseExpiresAt := none }

def BillingOutboxRow.fail (state : OutboxState) (attempts : Nat) (nextAttemptAt : Option Instant)
    (row : BillingOutboxRow) : BillingOutboxRow :=
  { row with state, attempts, nextAttemptAt, leaseOwner := none, leaseExpiresAt := none }

/-- The caller holds the event. -/
def BillingOutboxRow.heldBy (leaseOwner : LeaseOwner) (row : BillingOutboxRow) : Bool :=
  row.state = .processing ∧ row.leaseOwner = some leaseOwner

/-- Change a row without its identity. -/
structure Change where
  apply : BillingOutboxRow → BillingOutboxRow
  sameId : ∀ row, (apply row).id = row.id := by exact fun _ => rfl
  sameDedupeKey : ∀ row, (apply row).dedupeKey = row.dedupeKey := by exact fun _ => rfl

/-- The world with the rows of these identities changed. -/
def World.change (world : World) (ids : List Uuid) (change : Change) : World :=
  { world with
    events := world.events.update (fun row => row.id ∈ ids) change.apply change.sameId }

/-- The end of a lease. -/
def Change.expiry (now : Instant) : Change := ⟨.expire now, fun _ => rfl, fun _ => rfl⟩

/-- Change the row `id` when it satisfies `guard`, and tell whether it did. -/
def updateMany (world : World) (id : Uuid) (guard : BillingOutboxRow → Bool) (change : Change) :
    Except OutboxError (Effect World Key Bool) :=
  if (world.events.find id).any guard then .ok ⟨true, (World.change · [id] change), [.event id]⟩
  else .ok ⟨false, fun world => world, []⟩

/-- BullMQ ignores a job whose id it knows, whatever became of it. -/
def World.enqueue (world : World) (eventId : Uuid) : World :=
  if world.jobs.any (·.eventId = eventId) then world
  else { world with jobs := world.jobs ++ [⟨eventId, .waiting⟩] }

def World.turn (world : World) (eventId : Uuid) (state : JobState) : World :=
  { world with
    jobs := world.jobs.map fun job => if job.eventId = eventId then { job with state } else job }

def exec (_ : Pid) (choice : Nat) (asked : Statement) (world : World) :
    Except OutboxError (Effect World Key asked.Reply) :=
  match asked with
  | .createEvent row =>
      if world.events.rows.any (·.dedupeKey = row.dedupeKey) then .error .uniqueViolation
      else
        let id := world.events.freshKey choice
        .ok ⟨(), fun world => { world with events := world.events.insert { row with id } },
          [.event id, .dedupe row.dedupeKey]⟩
  | .openAccount ownerUserId =>
      .ok ⟨(), fun world => { world with accounts := world.accounts ++ [(choice, ownerUserId)] }, []⟩
  | .expireLeases now =>
      let ids := world.events.keysOf (isExpired now)
      .ok ⟨(), (World.change · ids (.expiry now)), ids.map .event⟩
  | .lockDue now limit =>
      let ids := ((skipLocked choice (world.due now)).take limit).map BillingOutboxRow.id
      .ok ⟨ids, id, ids.map .event⟩
  | .claimPending id leaseOwner leaseExpiresAt =>
      updateMany world id (·.state = .pending)
        ⟨.claim leaseOwner leaseExpiresAt, fun _ => rfl, fun _ => rfl⟩
  | .findClaimed ids =>
      .ok ⟨oldestFirst (world.events.rows.filter fun row => row.id ∈ ids), id, []⟩
  | .findEvent id => .ok ⟨world.events.find id, fun world => world, []⟩
  | .releaseClaim id leaseOwner =>
      updateMany world id (·.heldBy leaseOwner) ⟨.release, fun _ => rfl, fun _ => rfl⟩
  | .markDispatched id leaseOwner dispatchedAt =>
      updateMany world id (·.heldBy leaseOwner) ⟨.dispatch dispatchedAt, fun _ => rfl, fun _ => rfl⟩
  | .findAttempts id leaseOwner =>
      .ok ⟨((world.events.find id).filter (·.heldBy leaseOwner)).map BillingOutboxRow.attempts,
        fun world => world, []⟩
  | .recordFailure id leaseOwner state attempts nextAttemptAt =>
      updateMany world id (·.heldBy leaseOwner)
        ⟨.fail state attempts nextAttemptAt, fun _ => rfl, fun _ => rfl⟩
  | .findOwner billingAccountId =>
      .ok ⟨(world.accounts.find? (·.1 = billingAccountId)).map Prod.snd, id, []⟩
  | .addJob eventId => .ok ⟨(), (World.enqueue · eventId), []⟩
  | .turnJob eventId state => .ok ⟨(), (World.turn · eventId state), []⟩
  | .sendMail mail =>
      if choice = 0 then
        .ok ⟨(), fun world => { world with mails := world.mails ++ [mail] }, []⟩
      else .error .mailRefused

/-! ### The store -/

theorem agree_refl (key : Key) (world : World) : Agree key world world := by
  cases key <;> rfl

theorem agree_trans (key : Key) {first second third : World} (left : Agree key first second)
    (right : Agree key second third) : Agree key first third := by
  cases key <;> exact Eq.trans left right

theorem find_change {world : World} {ids : List Uuid} {change : Change} {id : Uuid} :
    (world.change ids change).events.find id =
      (world.events.find id).map fun row => if id ∈ ids then change.apply row else row := by
  unfold World.change
  rw [Table.find_update]
  cases found : world.events.find id with
  | none => rfl
  | some row =>
      have same : row.id = id := Table.key_of_find found
      simp [same]

private theorem agree_change {key : Key} {ids : List Uuid} {change : Change}
    (free : key ∉ ids.map Key.event) (world : World) :
    Agree key world (world.change ids change) := by
  cases key with
  | event id =>
      have apart : id ∉ ids := by
        intro member
        exact free (List.mem_map_of_mem member)
      show _ = (world.change ids change).events.find id
      rw [find_change]
      simp [apart]
  | dedupe dedupeKey =>
      refine (@Table.keysOf_update _ _ _ _ _ change.apply change.sameId ?_).symm
      intro row _
      rw [change.sameDedupeKey]

/-- What a guarded update of one row does. -/
theorem updateMany_cases {world : World} {id : Uuid} {guard : BillingOutboxRow → Bool}
    {change : Change} {effect : Effect World Key Bool}
    (executed : updateMany world id guard change = .ok effect) :
    (∃ row, world.events.find id = some row ∧ guard row = true ∧
      effect = ⟨true, (World.change · [id] change), [.event id]⟩) ∨
    effect = ⟨false, fun world => world, []⟩ := by
  unfold updateMany at executed
  by_cases guarded : (world.events.find id).any guard = true
  · rw [if_pos guarded] at executed
    cases found : world.events.find id with
    | none =>
        rw [found] at guarded
        cases guarded
    | some row =>
        rw [found] at guarded
        exact .inl ⟨row, rfl, guarded, (Except.ok.inj executed).symm⟩
  · rw [if_neg guarded] at executed
    exact .inr (Except.ok.inj executed).symm

private theorem agree_updateMany {key : Key} {world : World} {id : Uuid}
    {guard : BillingOutboxRow → Bool} {change : Change} {effect : Effect World Key Bool}
    (executed : updateMany world id guard change = .ok effect) (free : key ∉ effect.keys)
    (other : World) : Agree key other (effect.write other) := by
  rcases updateMany_cases executed with ⟨row, -, -, rfl⟩ | rfl
  · exact agree_change (by simpa using free) other
  · exact agree_refl key other

private theorem agree_createEvent {key : Key} {row : BillingOutboxRow}
    (free : key ∉ [Key.event row.id, .dedupe row.dedupeKey]) (world : World) :
    Agree key world { world with events := world.events.insert row } := by
  cases key with
  | event id =>
      refine (Table.find_insert_of_ne ?_).symm
      rintro rfl
      exact free List.mem_cons_self
  | dedupe dedupeKey =>
      have outside : decide (row.dedupeKey = dedupeKey) = false := by
        rw [decide_eq_false_iff_not]
        rintro rfl
        simp at free
      cases known : world.events.find (Keyed.key row) with
      | some old =>
          show _ = (world.events.insert row).keysOf _
          rw [Table.insert_of_used known]
      | none =>
          show _ = (world.events.insert row).keysOf _
          rw [Table.keysOf_insert known, outside]
          simp

/-- The accounts, the queue and the mails are under no key. -/
private theorem agree_beside {key : Key} {world after : World}
    (same : after.events = world.events) : Agree key world after := by
  cases key <;> simp [Agree, same]

/-- A statement touches only the rows that it holds. -/
theorem exec_framed {pid : Pid} {choice : Nat} {asked : Statement} {world : World}
    {effect : Effect World Key asked.Reply} (executed : exec pid choice asked world = .ok effect)
    (key : Key) (free : key ∉ effect.keys) (other : World) :
    Agree key other (effect.write other) := by
  cases asked <;> simp only [exec] at executed
  case createEvent row =>
    obtain ⟨-, executed⟩ := ok_of_unless executed
    cases executed
    exact agree_createEvent free other
  case expireLeases now =>
    cases executed
    exact agree_change free other
  case addJob eventId =>
    cases executed
    apply agree_beside
    show (other.enqueue eventId).events = other.events
    unfold World.enqueue
    split <;> rfl
  case sendMail mail =>
    obtain ⟨-, executed⟩ := ok_of_when executed
    cases executed
    exact agree_beside rfl
  case claimPending | releaseClaim | markDispatched | recordFailure =>
    exact agree_updateMany executed free other
  all_goals
    cases executed
    exact agree_beside rfl

/-- The billing outbox, with its queue and the mail provider. -/
def store : Store outbox World Key where
  exec := exec
  Agree := Agree
  agree_refl := agree_refl
  agree_trans := agree_trans
  framed := exec_framed
  aborted := .transactionAborted
  databaseFailure := .databaseFailure

/-! ### The repository -/

abbrev Code (α : Type) := Program outbox α

/-- Ask for one statement. -/
abbrev ask (asked : Statement) : Code asked.Reply := @Program.ask outbox asked

/-- `BILLING_OUTBOX_MAX_ATTEMPTS` -/
def maxAttempts : Nat := 5

def claimLimit : Nat := 50

def leaseMs : Int := 60000

/-- Claim the locked rows, one statement each. -/
def claimEach (leaseOwner : LeaseOwner) (leaseExpiresAt : Instant) : List Uuid → Code (List Uuid)
  | [] => pure []
  | id :: rest => do
      let claimed ← ask (.claimPending id leaseOwner leaseExpiresAt)
      let claimedIds ← claimEach leaseOwner leaseExpiresAt rest
      return if claimed then id :: claimedIds else claimedIds

def claimDueEvents (leaseOwner : LeaseOwner) (now : Instant) : Code (List BillingOutboxRow) :=
  Program.transaction do
    ask (.expireLeases now)
    let ids ← ask (.lockDue now claimLimit)
    if ids.isEmpty then return []
    let claimedIds ← claimEach leaseOwner (now + leaseMs) ids
    ask (.findClaimed claimedIds)

def claimEventById (eventId : Uuid) (leaseOwner : LeaseOwner) (now : Instant) :
    Code (Option BillingOutboxRow) := do
  let claimed ← ask (.claimPending eventId leaseOwner (now + leaseMs))
  if claimed then ask (.findEvent eventId) else return none

/-- Exponential backoff, of a minute at most. -/
def delayMs (attempts : Nat) : Int := min 60000 (1000 * 2 ^ (attempts - 1))

def releaseForRetry (eventId : Uuid) (leaseOwner : LeaseOwner) (now : Instant) : Code Bool := do
  match ← ask (.findAttempts eventId leaseOwner) with
  | none => return false
  | some current =>
      let attempts := current + 1
      if maxAttempts ≤ attempts then ask (.recordFailure eventId leaseOwner .failed attempts none)
      else
        ask (.recordFailure eventId leaseOwner .pending attempts (some (now + delayMs attempts)))

/-! ### The reconciler -/

/-- Enqueue a claimed event and hand its claim back. -/
def offer (leaseOwner : LeaseOwner) (now : Instant) (event : BillingOutboxRow) : Code Unit :=
  tryCatch
    (do
      ask (.addJob event.id)
      let _ ← ask (.releaseClaim event.id leaseOwner))
    fun _ => do
      let _ ← releaseForRetry event.id leaseOwner now

def offerEach (leaseOwner : LeaseOwner) (now : Instant) : List BillingOutboxRow → Code Unit
  | [] => pure ()
  | event :: rest => do
      offer leaseOwner now event
      offerEach leaseOwner now rest

def reconcile (pass : Uuid) (now : Instant) : Code Unit := do
  let events ← claimDueEvents (.reconciler pass) now
  offerEach (.reconciler pass) now events

/-! ### The worker -/

def mailFor (ownerUserId : Uuid) (event : BillingOutboxRow) : Mail :=
  let payload := event.payload
  let bundleFallback := payload.bundleCode.getD ""
  { ownerUserId
    bundleNameEn := payload.bundleNameEn.getD bundleFallback
    bundleNameAr := payload.bundleNameAr.getD bundleFallback
    pointsGranted := payload.pointsGranted.getD 0
    amountEgp := payload.amountEgp.getD 0
    currency := payload.currency.getD "EGP"
    transactionRef := payload.transactionRef.getD event.dedupeKey
    confirmedAt := payload.confirmedAt.getD event.createdAt }

def sendConfirmationEmail (event : BillingOutboxRow) : Code Unit := do
  match ← ask (.findOwner event.billingAccountId) with
  | none => throw (OutboxError.accountNotFound event.billingAccountId)
  | some ownerUserId => ask (.sendMail (mailFor ownerUserId event))

def process (eventId : Uuid) (now : Instant) : Code Unit := do
  let leaseOwner := LeaseOwner.worker eventId
  match ← claimEventById eventId leaseOwner now with
  | none => return
  | some event =>
      tryCatch
        (do
          sendConfirmationEmail event
          let _ ← ask (.markDispatched eventId leaseOwner now))
        fun error => do
          let _ ← releaseForRetry eventId leaseOwner now
          throw error

/-! ### The system of calls -/

inductive Call
  | reconcile (pass : Uuid) (now : Instant)
  | process (eventId : Uuid) (now : Instant)
  | turnJob (eventId : Uuid) (state : JobState)
  | openAccount (ownerUserId : Uuid)
  | confirmPayment (billingAccountId : Uuid) (dedupeKey : String)
      (payload : PaymentConfirmedPayload) (createdAt : Instant)

def Call.program : Call → Code Unit
  | reconcile pass now => Outbox.reconcile pass now
  | process eventId now => Outbox.process eventId now
  | turnJob eventId state => ask (.turnJob eventId state)
  | openAccount ownerUserId => ask (.openAccount ownerUserId)
  | confirmPayment billingAccountId dedupeKey payload createdAt =>
      ask (.createEvent ⟨0, billingAccountId, dedupeKey, payload, createdAt, .pending, 0, none, none,
        none, none⟩)

/-- A worker runs the jobs that the queue has handed out to it. -/
def Call.enabled : Call → World → Bool
  | process eventId _, world => world.jobs.any (· = ⟨eventId, .active⟩)
  | _, _ => true

/-- The outbox over its database and queue. -/
def system : System outbox World Key Call where
  toStore := store
  program := Call.program
  enabled := Call.enabled

end MarketMind.Billing.Outbox
