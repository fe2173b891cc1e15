import MarketMind.Billing.PaymentProvider

/-!
Owns the sandbox payment provider: its webhook payloads, how it signs them, and
which of them it accepts.
-/

namespace MarketMind.Billing.Fake

open MarketMind

def eventTypeText : ProviderEventType → String
  | .checkoutPaid => "checkout.paid"
  | .checkoutFailed => "checkout.failed"
  | .checkoutPending => "checkout.pending"

def paymentModeText : BillingPaymentMode → String
  | .recurringCard => "recurring_card"
  | .oneTimeCard => "one_time_card"
  | .wallet => "wallet"
  | .reference => "reference"

/-- `FakeWebhookPayload` -/
structure FakeWebhookPayload where
  eventType : ProviderEventType
  checkoutRef : String
  transactionRef : String
  amountEgp : Int
  currency : String
  paymentMode : BillingPaymentMode
  eventId : String
  occurredAt : String
deriving DecidableEq, Repr

/-- The payload as the object that `createWebhookPayload` builds. -/
def FakeWebhookPayload.toJson (payload : FakeWebhookPayload) : Json :=
  .object
    [("event_type", .string (eventTypeText payload.eventType)),
     ("checkout_ref", .string payload.checkoutRef),
     ("transaction_ref", .string payload.transactionRef),
     ("amount_egp", .number (.integer payload.amountEgp)),
     ("currency", .string payload.currency),
     ("payment_mode", .string (paymentModeText payload.paymentMode)),
     ("event_id", .string payload.eventId),
     ("occurred_at", .string payload.occurredAt)]

/-- `signWebhook` -/
def signWebhook (host : Host) (secret : String) (payload : FakeWebhookPayload) : String :=
  host.hmacSha256 secret (utf8 payload.toJson.stringify)

end MarketMind.Billing.Fake
