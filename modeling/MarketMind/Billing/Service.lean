import MarketMind.Billing.Paymob
import MarketMind.Billing.Store

/-!
Owns the wallet operations of the billing service, its webhook handler, and the
operator's manual top-up, as programs over the billing statements.

Does not own payment providers: the handler works with any port.
-/

namespace MarketMind.Billing

open MarketMind.Transactions

/-- Code of the billing services. -/
abbrev Code (α : Type) := Program billing α

/-! ### Statements under the names of the tables -/

namespace Db

def findAccountByOwner (userId : Uuid) : Code (Option BillingAccount) :=
  @Program.ask billing (.findAccountByOwner userId)

def findAccount (id : Uuid) : Code (Option BillingAccount) := @Program.ask billing (.findAccount id)

def findAccountOfOwner (id userId : Uuid) : Code (Option BillingAccount) :=
  @Program.ask billing (.findAccountOfOwner id userId)

def findFirstBusiness (userId : Uuid) : Code (Option Uuid) := @Program.ask billing (.findFirstBusiness userId)

def createAccount (ownerUserId : Uuid) (activeBusinessId : Option Uuid) : Code BillingAccount :=
  @Program.ask billing (.createAccount ownerUserId activeBusinessId)

def lockAccount (id : Uuid) : Code Unit := @Program.ask billing (.lockAccount id)

def findBalance (account : Uuid) : Code (Option BillingPointBalance) := @Program.ask billing (.findBalance account)

def createBalance (balance : BillingPointBalance) : Code Unit := @Program.ask billing (.createBalance balance)

def updateBalance (account : Uuid) (data : BalanceUpdate) : Code BillingPointBalance :=
  @Program.ask billing (.updateBalance account data)

def findLedger (account : Uuid) (claimKey : String) : Code (Option BillingPointLedger) :=
  @Program.ask billing (.findLedger account claimKey)

def findLastSpend (account : Uuid) (metric : BillingMetric) (startsWith : String) :
    Code (Option BillingPointLedger) :=
  @Program.ask billing (.findLastSpend account metric startsWith)

def createLedger (row : BillingPointLedger) : Code Unit := @Program.ask billing (.createLedger row)

def findAttempt (checkoutRef : String) : Code (Option BillingCheckoutAttempt) :=
  @Program.ask billing (.findAttempt checkoutRef)

def updateAttempt (id : Uuid) (status : CheckoutStatus) (confirmedAt : Option Int) : Code Unit :=
  @Program.ask billing (.updateAttempt id status confirmedAt)

def findTransaction (provider reference : String) : Code (Option BillingPaymentTransaction) :=
  @Program.ask billing (.findTransaction provider reference)

def createTransaction (transaction : BillingPaymentTransaction) : Code BillingPaymentTransaction :=
  @Program.ask billing (.createTransaction transaction)

def findEvent (provider externalEventId : String) : Code (Option BillingProviderEvent) :=
  @Program.ask billing (.findEvent provider externalEventId)

def createEvent (event : BillingProviderEvent) : Code Unit := @Program.ask billing (.createEvent event)

def updateEvent (provider externalEventId : String) (status : EventStatus) : Code Unit :=
  @Program.ask billing (.updateEvent provider externalEventId status)

def createOutbox (row : BillingOutbox) : Code Unit := @Program.ask billing (.createOutbox row)

def recordAudit (record : AuditRecord) : Code Unit := @Program.ask billing (.recordAudit record)

end Db

/-! ### Accounts and points -/

/-- The account of an owner, created with its trial grant when it does not exist. -/
def ensureBillingAccount (userId : Uuid) : Code BillingAccount := do
  match ← Db.findAccountByOwner userId with
  | some existing => return existing
  | none =>
      let business ← Db.findFirstBusiness userId
      tryCatch
        (Program.transaction do
          let account ← Db.createAccount userId business
          Db.createBalance ⟨account.id, trialGrantPoints, trialGrantPoints, 0⟩
          Db.createLedger {
            billingAccountId := account.id
            direction := .credit
            reason := .trialGrant
            metric := none
            points := trialGrantPoints
            balanceAfter := trialGrantPoints
            claimKey := "trial-grant:" ++ toString account.id
            transactionId := none }
          return account)
        fun error => do
          if isPrismaUniqueError error then
            if let some replay ← Db.findAccountByOwner userId then
              return replay
          throw error

def assertAccountActive (account : BillingAccount) : Code Unit :=
  if account.status = .paused then
    throw (.domain "BILLING_ACCOUNT_PAUSED"
      "This billing account is paused by an operator. Existing work is preserved; new checkouts and point spends are blocked.")
  else pure ()

/-- Insert a ledger row; a row that already has the claim key is a replay. -/
def claimLedger (row : BillingPointLedger) : Code Unit :=
  tryCatch (Db.createLedger row) fun error =>
    if isPrismaUniqueError error then pure () else throw error

/-- The transaction of `spendPoints`. -/
def spendFromWallet (account : Uuid) (metric : BillingMetric) (points : Int) (claimKey : String) :
    Code Unit := do
  Db.lockAccount account
  match ← Db.findLedger account claimKey with
  | some _ => return
  | none =>
      match ← Db.findBalance account with
      | none => throw (.internal "Billing wallet is missing")
      | some balance =>
          if balance.balance < points then
            throw (.domain "BILLING_INSUFFICIENT_POINTS"
              "Not enough points for this action. Top up to continue.")
          else
            let balanceAfter := balance.balance - points
            let _ ← Db.updateBalance account ⟨balanceAfter, 0, points⟩
            claimLedger {
              billingAccountId := account
              direction := .debit
              reason := .spend
              metric := some metric
              points
              balanceAfter
              claimKey
              transactionId := none }

/-- `Number.isSafeInteger(units) && units > 0`, as the integer itself. -/
def positiveUnits (units : Number) : Option Int :=
  match units with
  | .integer value => if (Number.integer value).isSafeInteger = true ∧ 0 < value then some value else none
  | .other _ => none

def spendPoints (userId : Uuid) (metric : BillingMetric) (units : Number) (claimKey : String) :
    Code Unit := do
  match positiveUnits units with
  | none =>
      throw (.domain "BILLING_INSUFFICIENT_POINTS" "Points units must be a positive whole number.")
  | some units =>
      let points := pointsForMetric metric units
      if points ≤ 0 then return
      else
        let account ← ensureBillingAccount userId
        assertAccountActive account
        Program.transaction (spendFromWallet account.id metric points claimKey)

/-- The transaction of `refundPoints`. -/
def refundToWallet (account : Uuid) (claimKey : String) : Code Unit := do
  let refundKey := "refund:" ++ claimKey
  Db.lockAccount account
  match ← Db.findLedger account refundKey with
  | some _ => return
  | none =>
      match ← Db.findLedger account claimKey with
      | none => return
      | some spend =>
          if spend.direction ≠ .debit then return
          else
            match ← Db.findBalance account with
            | none => throw (.internal "Billing wallet is missing")
            | some balance =>
                let balanceAfter := balance.balance + spend.points
                let _ ← Db.updateBalance account ⟨balanceAfter, 0, 0⟩
                claimLedger {
                  billingAccountId := account
                  direction := .credit
                  reason := .refund
                  metric := spend.metric
                  points := spend.points
                  balanceAfter
                  claimKey := refundKey
                  transactionId := none }

def refundPoints (userId : Uuid) (claimKey : String) : Code Unit := do
  let account ← ensureBillingAccount userId
  Program.transaction (refundToWallet account.id claimKey)

def releaseStrategyCycle (userId : Uuid) (strategyId : String) : Code Unit := do
  let account ← ensureBillingAccount userId
  match ← Db.findLastSpend account.id .strategyCycle ("strategy-cycle:" ++ strategyId ++ ":") with
  | none => return
  | some spend => refundPoints userId spend.claimKey

/-! ### Webhooks -/

/-- `applyPaidEvent`, inside the webhook's transaction. -/
def applyPaidEvent (attempt : BillingCheckoutAttempt) (event : PaymentProviderEvent) :
    Code Unit := do
  match ← Db.findTransaction event.provider event.transactionRef with
  | some _ => return
  | none =>
      match getBillingBundle attempt.priceCode with
      | none =>
          throw (.domain "BILLING_BUNDLE_NOT_FOUND"
            "The paid checkout does not map to a points bundle.")
      | some bundle =>
          Db.lockAccount attempt.billingAccountId
          let transaction ← Db.createTransaction {
            id := 0
            billingAccountId := attempt.billingAccountId
            checkoutAttemptId := attempt.id
            provider := event.provider
            providerTransactionId := event.transactionRef
            status := .succeeded
            amountEgp := event.amountEgp
            currency := event.currency
            paymentMode := event.paymentMode
            occurredAt := event.occurredAt }
          Db.updateAttempt attempt.id .succeeded (some event.occurredAt)
          match ← Db.findBalance attempt.billingAccountId with
          | none => throw (.internal "Billing wallet is missing")
          | some balance =>
              let balanceAfter := balance.balance + bundle.points
              let _ ← Db.updateBalance attempt.billingAccountId ⟨balanceAfter, bundle.points, 0⟩
              Db.createLedger {
                billingAccountId := attempt.billingAccountId
                direction := .credit
                reason := .topup
                metric := none
                points := bundle.points
                balanceAfter
                claimKey := "topup:" ++ event.transactionRef
                transactionId := some transaction.id }
              Db.createOutbox {
                billingAccountId := attempt.billingAccountId
                eventType := "billing.payment_confirmed"
                dedupeKey := event.provider ++ ":" ++ event.externalEventId }

structure BillingWebhookResult where
  accepted : Bool
  duplicate : Bool
deriving DecidableEq, Repr

/-- Record the event as received, before it is applied. The reply says whether
the event was there already; `none` when it turns out to be processed. -/
def receiveEvent (existingEvent : Option BillingProviderEvent) (attempt : BillingCheckoutAttempt)
    (event : PaymentProviderEvent) : Code (Option Bool) := do
  match existingEvent with
  | some existing =>
      if existing.fingerprint ≠ event.fingerprint then
        throw (.domain "BILLING_PROVIDER_EVENT_DUPLICATE"
          "The provider event id was reused with different payload bytes.")
      else
        Db.updateEvent event.provider event.externalEventId .received
        return some true
  | none =>
      tryCatch
        (do
          Db.createEvent {
            billingAccountId := attempt.billingAccountId
            provider := event.provider
            externalEventId := event.externalEventId
            fingerprint := event.fingerprint
            eventType := event.eventType
            signatureValid := event.signatureValid
            status := .received }
          return some false)
        fun error => do
          if isPrismaUniqueError error then
            -- Another request inserted the event between the read and the create.
            match ← Db.findEvent event.provider event.externalEventId with
            | none =>
                throw (.domain "BILLING_PROVIDER_EVENT_DUPLICATE"
                  "The provider event id was reused with different payload bytes.")
            | some raced =>
                if raced.fingerprint ≠ event.fingerprint then
                  throw (.domain "BILLING_PROVIDER_EVENT_DUPLICATE"
                    "The provider event id was reused with different payload bytes.")
                else if raced.status = .processed then return none
                else return some true
          else throw error

/-- The transaction of the handler. -/
def applyEvent (attempt : BillingCheckoutAttempt) (event : PaymentProviderEvent) : Code Unit :=
  match event.eventType with
  | .checkoutPaid => applyPaidEvent attempt event
  | .checkoutPending => Db.updateAttempt attempt.id .pending none
  | .checkoutFailed => Db.updateAttempt attempt.id .failed none

/-- Apply a received event and mark it processed, or failed when that throws. -/
def processEvent (attempt : BillingCheckoutAttempt) (event : PaymentProviderEvent)
    (duplicateEvent : Bool) : Code BillingWebhookResult := do
  tryCatch
    (do
      Program.transaction (applyEvent attempt event)
      Db.updateEvent event.provider event.externalEventId .processed)
    fun error => do
      Db.updateEvent event.provider event.externalEventId .failed
      throw error
  return ⟨true, duplicateEvent⟩

/-- What `handleWebhook` does with a verified event. -/
def handleEvent (event : PaymentProviderEvent) : Code BillingWebhookResult := do
  let existingEvent ← Db.findEvent event.provider event.externalEventId
  if existingEvent.any (·.status = .processed) then return ⟨true, true⟩
  else
    match ← Db.findAttempt event.checkoutRef with
    | none =>
        throw (.domain "BILLING_CHECKOUT_NOT_FOUND" "The payment checkout could not be found.")
    | some attempt =>
        if attempt.amountEgp ≠ event.amountEgp ∨ attempt.currency ≠ event.currency then
          throw (.domain "BILLING_AMOUNT_MISMATCH"
            "The confirmed payment amount does not match the server-priced checkout.")
        else
          match ← receiveEvent existingEvent attempt event with
          | none => return ⟨true, true⟩
          | some duplicateEvent => processEvent attempt event duplicateEvent

def handleWebhook (port : PaymentProviderPort) (providerName : String)
    (input : ProviderWebhookInput) : Code BillingWebhookResult :=
  if providerName ≠ port.name then
    throw (.domain "BILLING_PROVIDER_UNAVAILABLE" "This payment provider is not enabled.")
  else
    match port.verifyAndParseWebhook input with
    | .error .signature =>
        throw (.unauthorized ProviderError.signature.code ProviderError.signature.message)
    | .error .payload =>
        throw (.badRequest ProviderError.payload.code ProviderError.payload.message)
    | .ok event => handleEvent event

/-! ### Manual top-ups -/

/-- What the operator sends; the request is validated before the service sees it. -/
structure TopUpRequest where
  points : Int
  reason : String
  actorUserId : Uuid
  /-- `randomUUID()` of this call. -/
  nonce : Uuid
deriving DecidableEq, Repr

/-- `@Min(1) @Max(1000000)` -/
def TopUpRequest.valid (request : TopUpRequest) : Bool :=
  1 ≤ request.points ∧ request.points ≤ 1000000

/-- The transaction of `topUpWallet`. -/
def topUpBalance (id : Uuid) (request : TopUpRequest) (balanceAfter : Int) :
    Code BillingPointBalance := do
  let row ← Db.updateBalance id ⟨balanceAfter, request.points, 0⟩
  Db.createLedger {
    billingAccountId := id
    direction := .credit
    reason := .topup
    metric := none
    points := request.points
    balanceAfter
    claimKey := "admin:topup:" ++ toString request.nonce
    transactionId := none }
  return row

/-- `AdminBillingService.topUpWallet`: the balance is read before the
transaction, and no row is locked. -/
def topUpWallet (id : Uuid) (request : TopUpRequest) : Code BillingPointBalance := do
  match ← Db.findAccount id with
  | none => throw (.notFound "Billing account not found")
  | some _ =>
      match ← Db.findBalance id with
      | none => throw (.notFound "Billing wallet not found")
      | some balance =>
          let balanceAfter := balance.balance + request.points
          let updated ← Program.transaction (topUpBalance id request balanceAfter)
          Db.recordAudit {
            actorUserId := request.actorUserId
            action := "billing.wallet_topup"
            targetId := id
            reason := request.reason
            beforeBalance := balance.balance
            beforeGranted := balance.lifetimeGranted
            afterBalance := updated.balance
            afterGranted := updated.lifetimeGranted }
          return updated

/-! ### The system of calls -/

/-- The calls that move points. -/
inductive Call
  | ensureBillingAccount (userId : Uuid)
  | spendPoints (userId : Uuid) (metric : BillingMetric) (units : Number) (claimKey : String)
  | refundPoints (userId : Uuid) (claimKey : String)
  | releaseStrategyCycle (userId : Uuid) (strategyId : String)
  | handleWebhook (providerName : String) (input : ProviderWebhookInput)
  | topUpWallet (id : Uuid) (request : TopUpRequest)

/-- What a call runs, with the configured payment provider. -/
def Call.program (port : PaymentProviderPort) : Call → Code Unit
  | ensureBillingAccount userId => (Billing.ensureBillingAccount userId).discard
  | spendPoints userId metric units claimKey => Billing.spendPoints userId metric units claimKey
  | refundPoints userId claimKey => Billing.refundPoints userId claimKey
  | releaseStrategyCycle userId strategyId => Billing.releaseStrategyCycle userId strategyId
  | handleWebhook providerName input => (Billing.handleWebhook port providerName input).discard
  | topUpWallet id request => (Billing.topUpWallet id request).discard

/-- Requests reach a service after validation. -/
def Call.valid : Call → Bool
  | topUpWallet _ request => request.valid
  | _ => true

/-- The billing API over its database. -/
def system (port : PaymentProviderPort) : System billing World Key Call where
  toStore := store
  program := Call.program port
  enabled call _ := call.valid

end MarketMind.Billing
