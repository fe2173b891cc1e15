import MarketMind.Billing.Catalog
import MarketMind.Billing.PaymentProvider
import MarketMind.Transactions.Store

/-!
Owns the billing tables, the statements that the billing services execute on
them, and which rows each statement holds until its transaction ends.

A row lock on an account excludes writers of its ledger: a ledger row refers to
its account, and the share lock that the reference takes waits for a holder of
`FOR UPDATE`. Two writers that would share that lock exclude each other on the
balance row first, so the model lets a ledger row hold its account.

Does not own what the services do with the statements.
-/

namespace MarketMind.Billing

open MarketMind.Transactions

/-- A row identifier. -/
abbrev Uuid := Nat

/-! ### Tables -/

inductive AccountStatus
  | active
  | paused
deriving DecidableEq, Repr

structure BillingAccount where
  id : Uuid
  ownerUserId : Uuid
  activeBusinessId : Option Uuid
  status : AccountStatus
deriving DecidableEq, Repr

structure BillingPointBalance where
  billingAccountId : Uuid
  balance : Int
  lifetimeGranted : Int
  lifetimeSpent : Int
deriving DecidableEq, Repr

inductive Direction
  | credit
  | debit
deriving DecidableEq, Repr

inductive Reason
  | topup
  | trialGrant
  | spend
  | refund
deriving DecidableEq, Repr

structure BillingPointLedger where
  billingAccountId : Uuid
  direction : Direction
  reason : Reason
  metric : Option BillingMetric
  points : Int
  balanceAfter : Int
  claimKey : String
  transactionId : Option Uuid
deriving DecidableEq, Repr

inductive CheckoutStatus
  | pending
  | succeeded
  | failed
  | expired
deriving DecidableEq, Repr

/-- A checkout. `priceCode` is the code of the price row that it refers to; price
rows do not change. -/
structure BillingCheckoutAttempt where
  id : Uuid
  billingAccountId : Uuid
  priceCode : String
  providerCheckoutRef : Option String
  amountEgp : Int
  currency : String
  paymentMode : BillingPaymentMode
  status : CheckoutStatus
  confirmedAt : Option Int
deriving DecidableEq, Repr

inductive TransactionStatus
  | pending
  | succeeded
  | failed
deriving DecidableEq, Repr

structure BillingPaymentTransaction where
  id : Uuid
  billingAccountId : Uuid
  checkoutAttemptId : Uuid
  provider : String
  providerTransactionId : String
  status : TransactionStatus
  amountEgp : Int
  currency : String
  paymentMode : BillingPaymentMode
  occurredAt : Int
deriving DecidableEq, Repr

inductive EventStatus
  | received
  | processed
  | failed
deriving DecidableEq, Repr

structure BillingProviderEvent where
  billingAccountId : Uuid
  provider : String
  externalEventId : String
  fingerprint : String
  eventType : ProviderEventType
  signatureValid : Bool
  status : EventStatus
deriving DecidableEq, Repr

/-- A committed event that awaits delivery; its payload is read elsewhere. -/
structure BillingOutbox where
  billingAccountId : Uuid
  eventType : String
  dedupeKey : String
deriving DecidableEq, Repr

/-- An operator's manual change of a wallet, with its points before and after. -/
structure AuditRecord where
  actorUserId : Uuid
  action : String
  targetId : Uuid
  reason : String
  beforeBalance : Int
  beforeGranted : Int
  afterBalance : Int
  afterGranted : Int
deriving DecidableEq, Repr

/-- The committed tables. `businesses` lists (owner, business), oldest first;
rows are appended in the order in which they are created. -/
structure World where
  accounts : List BillingAccount
  businesses : List (Uuid × Uuid)
  balances : List BillingPointBalance
  ledger : List BillingPointLedger
  attempts : List BillingCheckoutAttempt
  transactions : List BillingPaymentTransaction
  events : List BillingProviderEvent
  outbox : List BillingOutbox
  audits : List AuditRecord
deriving DecidableEq, Repr

/-- No account, checkout or payment yet. -/
def World.empty : World := ⟨[], [], [], [], [], [], [], [], []⟩

namespace World

/-- The ledger rows of one account, oldest first. -/
def ledgerOf (world : World) (account : Uuid) : List BillingPointLedger :=
  world.ledger.filter (·.billingAccountId = account)

def findAccount (world : World) (id : Uuid) : Option BillingAccount :=
  world.accounts.find? (·.id = id)

def findBalance (world : World) (account : Uuid) : Option BillingPointBalance :=
  world.balances.find? (·.billingAccountId = account)

def findLedger (world : World) (account : Uuid) (claimKey : String) :
    Option BillingPointLedger :=
  (world.ledgerOf account).find? (·.claimKey = claimKey)

def findAttempt (world : World) (checkoutRef : String) : Option BillingCheckoutAttempt :=
  world.attempts.find? (·.providerCheckoutRef = some checkoutRef)

def findEvent (world : World) (provider externalEventId : String) :
    Option BillingProviderEvent :=
  world.events.find? fun event =>
    event.provider = provider ∧ event.externalEventId = externalEventId

def findTransaction (world : World) (provider reference : String) :
    Option BillingPaymentTransaction :=
  world.transactions.find? fun transaction =>
    transaction.provider = provider ∧ transaction.providerTransactionId = reference

end World

/-- `randomUUID()`: an identifier that is not in use. -/
def fresh (used : List Nat) (choice : Nat) : Nat :=
  used.foldr (fun id bound => max (id + 1) bound) 0 + choice

/-- The rows after an update of those that `matching` selects. -/
def updateWhere {Row : Type} (matching : Row → Bool) (change : Row → Row) (rows : List Row) :
    List Row :=
  rows.map fun row => if matching row then change row else row

/-! ### Errors -/

/-- What a billing call throws. -/
inductive BillingError
  | domain (code message : String)
  | unauthorized (code message : String)
  | badRequest (code message : String)
  | notFound (message : String)
  | internal (message : String)
  /-- Prisma's `P2002`. -/
  | uniqueConstraint
  /-- Prisma's `P2025`. -/
  | recordNotFound
  | transactionAborted
  | databaseFailure
deriving DecidableEq, Repr

def isPrismaUniqueError (error : BillingError) : Bool := error = .uniqueConstraint

/-! ### Statements -/

/-- The data of a balance update: a new balance, and what the counters grow by. -/
structure BalanceUpdate where
  balance : Int
  lifetimeGranted : Int
  lifetimeSpent : Int
deriving DecidableEq, Repr

inductive Statement
  | findAccountByOwner (userId : Uuid)
  | findAccount (id : Uuid)
  | findAccountOfOwner (id userId : Uuid)
  | findFirstBusiness (userId : Uuid)
  | createAccount (ownerUserId : Uuid) (activeBusinessId : Option Uuid)
  | lockAccount (id : Uuid)
  | findBalance (account : Uuid)
  | createBalance (balance : BillingPointBalance)
  | updateBalance (account : Uuid) (data : BalanceUpdate)
  | findLedger (account : Uuid) (claimKey : String)
  | findLastSpend (account : Uuid) (metric : BillingMetric) (startsWith : String)
  | createLedger (row : BillingPointLedger)
  | findAttempt (checkoutRef : String)
  | updateAttempt (id : Uuid) (status : CheckoutStatus) (confirmedAt : Option Int)
  | findTransaction (provider reference : String)
  | createTransaction (transaction : BillingPaymentTransaction)
  | findEvent (provider externalEventId : String)
  | createEvent (event : BillingProviderEvent)
  | updateEvent (provider externalEventId : String) (status : EventStatus)
  | createOutbox (row : BillingOutbox)
  | recordAudit (record : AuditRecord)

/-- What each statement returns. -/
def Statement.Reply : Statement → Type
  | findAccountByOwner _ | findAccount _ | findAccountOfOwner _ _ => Option BillingAccount
  | findFirstBusiness _ => Option Uuid
  | createAccount _ _ => BillingAccount
  | findBalance _ => Option BillingPointBalance
  | updateBalance _ _ => BillingPointBalance
  | findLedger _ _ | findLastSpend _ _ _ => Option BillingPointLedger
  | findAttempt _ => Option BillingCheckoutAttempt
  | findTransaction _ _ => Option BillingPaymentTransaction
  | createTransaction _ => BillingPaymentTransaction
  | findEvent _ _ => Option BillingProviderEvent
  | lockAccount _ | createBalance _ | createLedger _ | updateAttempt _ _ _ | createEvent _
  | updateEvent _ _ _ | createOutbox _ | recordAudit _ => Unit

abbrev billing : Signature := ⟨Statement, Statement.Reply, BillingError⟩

/-- What a call can hold: an account with its ledger, or one row by the columns
that identify it. -/
inductive Key
  | account (id : Uuid)
  | owner (userId : Uuid)
  | balance (account : Uuid)
  | attempt (id : Uuid)
  | transaction (provider reference : String)
  | event (provider externalEventId : String)
  | outbox (dedupeKey : String)
deriving DecidableEq

/-- The rows under a key are the same in both worlds. -/
def Agree : Key → World → World → Prop
  | .account id, left, right =>
      left.accounts.filter (·.id = id) = right.accounts.filter (·.id = id) ∧
        left.ledgerOf id = right.ledgerOf id
  | .owner userId, left, right =>
      left.accounts.filter (·.ownerUserId = userId) =
        right.accounts.filter (·.ownerUserId = userId)
  | .balance account, left, right =>
      left.balances.filter (·.billingAccountId = account) =
        right.balances.filter (·.billingAccountId = account)
  | .attempt id, left, right =>
      left.attempts.filter (·.id = id) = right.attempts.filter (·.id = id)
  | .transaction provider reference, left, right =>
      left.transactions.filter (fun row =>
          row.provider = provider ∧ row.providerTransactionId = reference) =
        right.transactions.filter fun row =>
          row.provider = provider ∧ row.providerTransactionId = reference
  | .event provider externalEventId, left, right =>
      left.events.filter (fun row =>
          row.provider = provider ∧ row.externalEventId = externalEventId) =
        right.events.filter fun row =>
          row.provider = provider ∧ row.externalEventId = externalEventId
  | .outbox dedupeKey, left, right =>
      left.outbox.filter (·.dedupeKey = dedupeKey) = right.outbox.filter (·.dedupeKey = dedupeKey)

/-- A statement that only reads. -/
abbrev reading {α : Type} (reply : α) : Except BillingError (Effect World Key α) :=
  .ok ⟨reply, id, []⟩

/-- A statement that returns nothing and changes the rows under `keys`. -/
abbrev writing (keys : List Key) (write : World → World) :
    Except BillingError (Effect World Key Unit) :=
  .ok ⟨(), write, keys⟩

/-- The effect of one statement on the world that its call sees. -/
def exec (choice : Nat) (asked : Statement) (world : World) :
    Except BillingError (Effect World Key asked.Reply) :=
  match asked with
  | .findAccountByOwner userId => reading (world.accounts.find? (·.ownerUserId = userId))
  | .findAccount id => reading (world.findAccount id)
  | .findAccountOfOwner id userId =>
      reading (world.accounts.find? fun account => account.id = id ∧ account.ownerUserId = userId)
  | .findFirstBusiness userId =>
      reading ((world.businesses.find? (·.1 = userId)).map (·.2))
  | .createAccount ownerUserId activeBusinessId =>
      if world.accounts.any (·.ownerUserId = ownerUserId) then .error .uniqueConstraint
      else
        let account : BillingAccount :=
          ⟨fresh (world.accounts.map (·.id)) choice, ownerUserId, activeBusinessId, .active⟩
        .ok ⟨account, fun world => { world with accounts := world.accounts ++ [account] },
          [.account account.id, .owner ownerUserId]⟩
  | .lockAccount id => writing [.account id] fun world => world
  | .findBalance account => reading (world.findBalance account)
  | .createBalance balance =>
      if world.balances.any (·.billingAccountId = balance.billingAccountId) then
        .error .uniqueConstraint
      else writing [.balance balance.billingAccountId] fun world =>
        { world with balances := world.balances ++ [balance] }
  | .updateBalance account data =>
      let change (row : BillingPointBalance) : BillingPointBalance :=
        { row with
          balance := data.balance
          lifetimeGranted := row.lifetimeGranted + data.lifetimeGranted
          lifetimeSpent := row.lifetimeSpent + data.lifetimeSpent }
      match world.findBalance account with
      | none => .error .recordNotFound
      | some row =>
          .ok ⟨change row,
            fun world =>
              { world with
                balances := updateWhere (·.billingAccountId = account) change world.balances },
            [.balance account]⟩
  | .findLedger account claimKey => reading (world.findLedger account claimKey)
  | .findLastSpend account metric startsWith =>
      reading ((world.ledgerOf account).reverse.find? fun row =>
        row.direction = .debit ∧ row.reason = .spend ∧ row.metric = some metric ∧
          startsWith.toList <+: row.claimKey.toList)
  | .createLedger row =>
      if (world.findLedger row.billingAccountId row.claimKey).isSome then .error .uniqueConstraint
      else writing [.account row.billingAccountId] fun world =>
        { world with ledger := world.ledger ++ [row] }
  | .findAttempt checkoutRef => reading (world.findAttempt checkoutRef)
  | .updateAttempt id status confirmedAt =>
      if world.attempts.any (·.id = id) then
        writing [.attempt id] fun world =>
          { world with
            attempts := updateWhere (·.id = id)
              (fun row => { row with status, confirmedAt := confirmedAt.or row.confirmedAt })
              world.attempts }
      else .error .recordNotFound
  | .findTransaction provider reference => reading (world.findTransaction provider reference)
  | .createTransaction transaction =>
      if (world.findTransaction transaction.provider transaction.providerTransactionId).isSome then
        .error .uniqueConstraint
      else
        let created : BillingPaymentTransaction :=
          { transaction with id := fresh (world.transactions.map (·.id)) choice }
        .ok ⟨created, fun world => { world with transactions := world.transactions ++ [created] },
          [.transaction transaction.provider transaction.providerTransactionId]⟩
  | .findEvent provider externalEventId => reading (world.findEvent provider externalEventId)
  | .createEvent event =>
      if (world.findEvent event.provider event.externalEventId).isSome then .error .uniqueConstraint
      else writing [.event event.provider event.externalEventId] fun world =>
        { world with events := world.events ++ [event] }
  | .updateEvent provider externalEventId status =>
      if (world.findEvent provider externalEventId).isSome then
        writing [.event provider externalEventId] fun world =>
          { world with
            events := updateWhere
              (fun row => row.provider = provider ∧ row.externalEventId = externalEventId)
              ({ · with status }) world.events }
      else .error .recordNotFound
  | .createOutbox row =>
      if world.outbox.any (·.dedupeKey = row.dedupeKey) then .error .uniqueConstraint
      else writing [.outbox row.dedupeKey] fun world =>
        { world with outbox := world.outbox ++ [row] }
  | .recordAudit record =>
      writing [] fun world => { world with audits := world.audits ++ [record] }

/-! ### The store -/

theorem filter_updateWhere {Row : Type} {matching selected : Row → Bool} {change : Row → Row}
    (apart : ∀ row, matching row = true → selected row = false ∧ selected (change row) = false)
    (rows : List Row) :
    (updateWhere matching change rows).filter selected = rows.filter selected := by
  induction rows with
  | nil => rfl
  | cons row rest inductionHypothesis =>
      simp only [updateWhere, List.map_cons, List.filter_cons] at inductionHypothesis ⊢
      by_cases chosen : matching row = true
      · have outside := apart row chosen
        simp [chosen, outside.1, outside.2, inductionHypothesis]
      · simp [chosen, inductionHypothesis]

theorem find?_updateWhere {Row : Type} {matching selected : Row → Bool} {change : Row → Row}
    (stable : ∀ row, selected (change row) = selected row) (rows : List Row) :
    (updateWhere matching change rows).find? selected =
      (rows.find? selected).map fun row => if matching row then change row else row := by
  induction rows with
  | nil => rfl
  | cons row rest inductionHypothesis =>
      have sameHead : selected (if matching row then change row else row) = selected row := by
        split
        · exact stable row
        · rfl
      simp only [updateWhere, List.map_cons] at inductionHypothesis ⊢
      rw [List.find?_cons, List.find?_cons, sameHead]
      cases selected row with
      | true => rfl
      | false => exact inductionHypothesis

theorem agree_refl (key : Key) (world : World) : Agree key world world := by
  cases key <;> simp [Agree]

theorem agree_trans (key : Key) {first second third : World} (left : Agree key first second)
    (right : Agree key second third) : Agree key first third := by
  cases key with
  | account id => exact ⟨left.1.trans right.1, left.2.trans right.2⟩
  | owner | balance | attempt | transaction | event | outbox => exact Eq.trans left right

/-- A row appended to a table is outside every selection that it does not match. -/
private theorem filter_append_single {Row : Type} {selected : Row → Bool} {rows : List Row} {row : Row}
    (outside : selected row = false) : (rows ++ [row]).filter selected = rows.filter selected := by
  rw [List.filter_append, List.filter_cons_of_neg (by simp [outside]), List.filter_nil,
    List.append_nil]

private theorem agree_accounts {key : Key} {account : BillingAccount}
    (free : key ∉ [Key.account account.id, .owner account.ownerUserId]) (world : World) :
    Agree key world { world with accounts := world.accounts ++ [account] } := by
  cases key with
  | account id =>
      have outside : account.id ≠ id := by
        rintro rfl
        simp at free
      exact ⟨(filter_append_single (by simpa using outside)).symm, rfl⟩
  | owner userId =>
      have outside : account.ownerUserId ≠ userId := by
        rintro rfl
        simp at free
      exact (filter_append_single (by simpa using outside)).symm
  | balance | attempt | transaction | event | outbox => rfl

private theorem agree_balances {key : Key} {balances : List BillingPointBalance} {world : World}
    (same : ∀ account, key = .balance account →
      world.balances.filter (·.billingAccountId = account) =
        balances.filter (·.billingAccountId = account)) :
    Agree key world { world with balances } := by
  cases key with
  | balance account => exact same account rfl
  | account => exact ⟨rfl, rfl⟩
  | owner | attempt | transaction | event | outbox => rfl

private theorem agree_ledger {key : Key} {row : BillingPointLedger}
    (free : key ∉ [Key.account row.billingAccountId]) (world : World) :
    Agree key world { world with ledger := world.ledger ++ [row] } := by
  cases key with
  | account id =>
      have outside : row.billingAccountId ≠ id := by
        rintro rfl
        simp at free
      exact ⟨rfl, (filter_append_single (by simpa using outside)).symm⟩
  | owner | balance | attempt | transaction | event | outbox => rfl

private theorem agree_attempts {key : Key} {id : Uuid}
    {change : BillingCheckoutAttempt → BillingCheckoutAttempt}
    (sameId : ∀ row, (change row).id = row.id) (free : key ∉ [Key.attempt id]) (world : World) :
    Agree key world { world with attempts := updateWhere (·.id = id) change world.attempts } := by
  cases key with
  | attempt other =>
      have outside : other ≠ id := by
        rintro rfl
        exact free (List.mem_singleton_self _)
      refine (filter_updateWhere ?_ world.attempts).symm
      intro row chosen
      have same : row.id = id := by simpa using chosen
      simp [sameId, same, outside.symm]
  | account => exact ⟨rfl, rfl⟩
  | owner | balance | transaction | event | outbox => rfl

private theorem agree_transactions {key : Key} {transaction : BillingPaymentTransaction}
    (free : key ∉ [Key.transaction transaction.provider transaction.providerTransactionId])
    (world : World) :
    Agree key world { world with transactions := world.transactions ++ [transaction] } := by
  cases key with
  | transaction provider reference =>
      refine (filter_append_single ?_).symm
      simp only [List.mem_singleton, Key.transaction.injEq] at free
      exact decide_eq_false fun both => free ⟨both.1.symm, both.2.symm⟩
  | account => exact ⟨rfl, rfl⟩
  | owner | balance | attempt | event | outbox => rfl

private theorem agree_events {key : Key} {provider externalEventId : String}
    {events : List BillingProviderEvent} {world : World}
    (free : key ∉ [Key.event provider externalEventId])
    (same : ∀ other otherId, ¬(other = provider ∧ otherId = externalEventId) →
      world.events.filter (fun row => row.provider = other ∧ row.externalEventId = otherId) =
        events.filter (fun row => row.provider = other ∧ row.externalEventId = otherId)) :
    Agree key world { world with events } := by
  cases key with
  | event other otherId =>
      simp only [List.mem_singleton, Key.event.injEq] at free
      exact same other otherId free
  | account => exact ⟨rfl, rfl⟩
  | owner | balance | attempt | transaction | outbox => rfl

private theorem agree_outbox {key : Key} {row : BillingOutbox}
    (free : key ∉ [Key.outbox row.dedupeKey]) (world : World) :
    Agree key world { world with outbox := world.outbox ++ [row] } := by
  cases key with
  | outbox dedupeKey =>
      have outside : row.dedupeKey ≠ dedupeKey := by
        rintro rfl
        simp at free
      exact (filter_append_single (by simpa using outside)).symm
  | account => exact ⟨rfl, rfl⟩
  | owner | balance | attempt | transaction | event => rfl

private theorem agree_audits (key : Key) (audits : List AuditRecord) (world : World) :
    Agree key world { world with audits } := by
  cases key with
  | account => exact ⟨rfl, rfl⟩
  | owner | balance | attempt | transaction | event | outbox => rfl

/-- A statement touches only the rows that it holds. -/
theorem exec_framed {choice : Nat} {asked : Statement} {world : World}
    {effect : Effect World Key asked.Reply} (executed : exec choice asked world = .ok effect)
    (key : Key) (free : key ∉ effect.keys) (other : World) :
    Agree key other (effect.write other) := by
  cases asked <;> simp only [exec] at executed
  case createAccount ownerUserId activeBusinessId =>
    obtain ⟨-, executed⟩ := ok_of_unless executed
    cases executed
    exact agree_accounts free other
  case createBalance balance =>
    obtain ⟨-, executed⟩ := ok_of_unless executed
    cases executed
    refine agree_balances fun account same => (filter_append_single ?_).symm
    subst same
    simpa [eq_comm] using free
  case updateBalance account data =>
    split at executed <;> cases executed
    refine agree_balances fun held same => (filter_updateWhere ?_ _).symm
    subst same
    intro row chosen
    have same : row.billingAccountId = account := by simpa using chosen
    simpa [same, eq_comm] using free
  case createLedger row =>
    obtain ⟨-, executed⟩ := ok_of_unless executed
    cases executed
    exact agree_ledger free other
  case updateAttempt id status confirmedAt =>
    obtain ⟨-, executed⟩ := ok_of_when executed
    cases executed
    refine agree_attempts ?_ free other
    exact fun _ => rfl
  case createTransaction transaction =>
    obtain ⟨-, executed⟩ := ok_of_unless executed
    cases executed
    refine agree_transactions ?_ other
    exact free
  case createEvent event =>
    obtain ⟨-, executed⟩ := ok_of_unless executed
    cases executed
    refine agree_events free fun provider externalEventId outside =>
      (filter_append_single ?_).symm
    exact decide_eq_false fun both => outside ⟨both.1.symm, both.2.symm⟩
  case updateEvent provider externalEventId status =>
    obtain ⟨-, executed⟩ := ok_of_when executed
    cases executed
    refine agree_events free fun held heldId outside => (filter_updateWhere ?_ _).symm
    intro row chosen
    have same : row.provider = provider ∧ row.externalEventId = externalEventId := by
      simpa using chosen
    have apart : ¬(row.provider = held ∧ row.externalEventId = heldId) :=
      fun both => outside ⟨both.1.symm.trans same.1, both.2.symm.trans same.2⟩
    exact ⟨decide_eq_false apart, decide_eq_false apart⟩
  case createOutbox row =>
    obtain ⟨-, executed⟩ := ok_of_unless executed
    cases executed
    exact agree_outbox free other
  case recordAudit record =>
    cases executed
    exact agree_audits key _ other
  all_goals
    cases executed
    exact agree_refl key other

/-- The billing database. -/
def store : Store billing World Key where
  exec _ := exec
  Agree := Agree
  agree_refl := agree_refl
  agree_trans := agree_trans
  framed := exec_framed
  aborted := .transactionAborted
  databaseFailure := .databaseFailure

end MarketMind.Billing
