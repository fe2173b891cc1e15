import MarketMind.Json

/-!
Owns the boundary to payment providers: what a provider makes of a webhook
request, and the services of the host that both providers and the API use.

Does not own a particular provider.
-/

namespace MarketMind.Billing

abbrev Bytes := List UInt8

/-- What the JavaScript host computes for the API: digests in lower-case
hexadecimal, the Unicode case tables, and `new Date(text).getTime()`, where
`none` is an invalid date. -/
structure Host where
  hmacSha512 : (secret message : String) → String
  hmacSha256 : (secret : String) → (message : Bytes) → String
  sha256 : Bytes → String
  toUpperCase : String → String
  toLowerCase : String → String
  parseDate : String → Option Int

/-- `Buffer.from(text)` -/
def utf8 (text : String) : Bytes := text.toUTF8.data.toList

inductive BillingPaymentMode
  | recurringCard
  | oneTimeCard
  | wallet
  | reference
deriving DecidableEq, Repr

inductive ProviderEventType
  | checkoutPaid
  | checkoutFailed
  | checkoutPending
deriving DecidableEq, Repr

structure ProviderWebhookInput where
  body : Json
  rawBody : Option Bytes
  signature : Option String

/-- What a verified webhook says. The payload, which nothing reads again, is left out. -/
structure PaymentProviderEvent where
  provider : String
  externalEventId : String
  fingerprint : String
  eventType : ProviderEventType
  checkoutRef : String
  transactionRef : String
  amountEgp : Int
  currency : String
  paymentMode : BillingPaymentMode
  signatureValid : Bool
  occurredAt : Int
deriving DecidableEq, Repr

inductive ProviderError
  | signature
  | payload
deriving DecidableEq, Repr

namespace ProviderError

def code : ProviderError → String
  | signature => "BILLING_PROVIDER_SIGNATURE_INVALID"
  | payload => "BILLING_PROVIDER_UNAVAILABLE"

def message : ProviderError → String
  | signature => "Billing provider webhook signature is invalid."
  | payload => "Billing provider webhook payload is invalid."

end ProviderError

/-- `PaymentProviderPort`, as far as webhooks use it. -/
structure PaymentProviderPort where
  name : String
  verifyAndParseWebhook : ProviderWebhookInput → Except ProviderError PaymentProviderEvent

/-- A provider that accepts no webhook. -/
def PaymentProviderPort.closed : PaymentProviderPort := ⟨"closed", fun _ => .error .payload⟩

end MarketMind.Billing
