import MarketMind.Billing.FakeProvider
import MarketMind.Billing.Service

/-!
Owns the sandbox confirmation of a checkout, which sends a signed webhook of the
configured provider through the same handler as a live one, and the system of
calls that decide a checkout.
-/

namespace MarketMind.Billing

open MarketMind.Transactions

/-- The configuration of the API, as far as checkouts depend on it. -/
structure Deployment where
  host : Host
  port : PaymentProviderPort
  nodeEnv : String
  fakeSecret : String
  hmacSecret : String
  /-- The first configured integration id that is a positive safe integer, or 0. -/
  integrationId : Int

inductive SandboxOutcome
  | paid
  | failed
  | pending
deriving DecidableEq, Repr

/-- What `confirmSandboxCheckout` draws: two UUIDs, a transaction number, and the time. -/
structure SandboxNonce where
  transactionUuid : String
  eventUuid : String
  transactionId : Int
  now : String

def SandboxOutcome.eventType : SandboxOutcome → ProviderEventType
  | paid => .checkoutPaid
  | pending => .checkoutPending
  | failed => .checkoutFailed

/-- The webhook of the sandbox provider. -/
def fakeWebhook (deployment : Deployment) (attempt : BillingCheckoutAttempt) (checkoutRef : String)
    (outcome : SandboxOutcome) (nonce : SandboxNonce) : ProviderWebhookInput :=
  let payload : Fake.FakeWebhookPayload := {
    eventType := outcome.eventType
    checkoutRef
    transactionRef := "fake_transaction_" ++ nonce.transactionUuid
    amountEgp := attempt.amountEgp
    currency := "EGP"
    paymentMode := attempt.paymentMode
    eventId := nonce.eventUuid
    occurredAt := nonce.now }
  { body := payload.toJson
    rawBody := some (utf8 payload.toJson.stringify)
    signature := some (Fake.signWebhook deployment.host deployment.fakeSecret payload) }

/-- The Paymob transaction of a sandbox confirmation. -/
def paymobTransaction (deployment : Deployment) (attempt : BillingCheckoutAttempt)
    (outcome : SandboxOutcome) (nonce : SandboxNonce) : Paymob.Transaction :=
  [("amount_cents", .number (.integer (attempt.amountEgp * 100))),
   ("created_at", .string nonce.now),
   ("currency", .string "EGP"),
   ("error_occured", .boolean false),
   ("has_parent_transaction", .boolean false),
   ("id", .number (.integer nonce.transactionId)),
   ("integration_id", .number (.integer deployment.integrationId)),
   ("is_3d_secure", .boolean false),
   ("is_auth", .boolean true),
   ("is_capture", .boolean true),
   ("is_refund", .boolean false),
   ("is_refunded", .boolean false),
   ("is_standalone_payment", .boolean true),
   ("is_voided", .boolean false),
   ("order", .object [("id", .number (.integer nonce.transactionId)),
     ("merchant_order_id", .string (toString attempt.id))]),
   ("owner", .number (.integer nonce.transactionId)),
   ("pending", .boolean (outcome = .pending)),
   ("source_data", .object [("pan", .string "0000"), ("sub_type", .string "Test"),
     ("type", .string "card")]),
   ("success", .boolean (outcome = .paid))]

/-- The same as a signed callback. -/
def paymobWebhook (deployment : Deployment) (attempt : BillingCheckoutAttempt)
    (outcome : SandboxOutcome) (nonce : SandboxNonce) : ProviderWebhookInput :=
  let transaction := paymobTransaction deployment attempt outcome nonce
  let hmac := deployment.host.hmacSha512 deployment.hmacSecret (Paymob.canonical transaction)
  let payload : Json :=
    .object [("type", .string "TRANSACTION"), ("obj", .object transaction), ("hmac", .string hmac)]
  { body := payload, rawBody := some (utf8 payload.stringify), signature := some hmac }

def confirmSandboxCheckout (deployment : Deployment) (userId : Uuid)
    (providerCheckoutRef : String) (outcome : SandboxOutcome) (nonce : SandboxNonce) :
    Code BillingWebhookResult := do
  if deployment.nodeEnv ≠ "development" ∧ deployment.nodeEnv ≠ "test" then
    throw (.notFound "Not Found")
  else
    match ← Db.findAttempt providerCheckoutRef with
    | none =>
        throw (.domain "BILLING_CHECKOUT_NOT_FOUND" "The sandbox checkout could not be found.")
    | some attempt =>
        match ← Db.findAccountOfOwner attempt.billingAccountId userId with
        | none => throw (.notFound "Not Found")
        | some _ =>
            if attempt.status = .succeeded then return ⟨true, true⟩
            else if deployment.port.name = "fake" then
              handleWebhook deployment.port deployment.port.name
                (fakeWebhook deployment attempt providerCheckoutRef outcome nonce)
            else if deployment.port.name = "paymob" then
              handleWebhook deployment.port "paymob"
                (paymobWebhook deployment attempt outcome nonce)
            else throw (.notFound "Not Found")

/-- The calls that decide a checkout. -/
inductive CheckoutCall
  | handleWebhook (providerName : String) (input : ProviderWebhookInput)
  | confirmSandboxCheckout (userId : Uuid) (providerCheckoutRef : String)
      (outcome : SandboxOutcome) (nonce : SandboxNonce)

def CheckoutCall.program (deployment : Deployment) : CheckoutCall → Code Unit
  | handleWebhook providerName input =>
      (Billing.handleWebhook deployment.port providerName input).discard
  | confirmSandboxCheckout userId providerCheckoutRef outcome nonce =>
      (Billing.confirmSandboxCheckout deployment userId providerCheckoutRef outcome nonce).discard

/-- Checkouts over the billing database. -/
def checkoutSystem (deployment : Deployment) : System billing World Key CheckoutCall where
  toStore := store
  program := CheckoutCall.program deployment
  enabled _ _ := true

end MarketMind.Billing
