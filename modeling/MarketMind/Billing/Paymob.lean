import Mathlib.Data.List.Infix
import MarketMind.Billing.PaymentProvider

/-!
Owns the Paymob webhook: which callbacks are accepted, and what is read from
one. The signature covers the concatenation of twenty rendered fields, without
separators; `type` and `order.merchant_order_id` are read but not signed.
-/

namespace MarketMind.Billing.Paymob

open MarketMind

abbrev Transaction := List (String × Json)

/-- `t[outer][name]` for an object or array `t[outer]`; neither kind of array
index is a field name. -/
def nested (transaction : Transaction) (outer name : String) : Option Json :=
  match Json.get transaction outer with
  | some (.object fields) => Json.get fields name
  | _ => none

/-- `PAYMOB_HMAC_FIELDS` -/
def hmacFields : List (String × (Transaction → Option Json)) :=
  [("amount_cents", (Json.get · "amount_cents")),
   ("created_at", (Json.get · "created_at")),
   ("currency", (Json.get · "currency")),
   ("error_occured", (Json.get · "error_occured")),
   ("has_parent_transaction", (Json.get · "has_parent_transaction")),
   ("id", (Json.get · "id")),
   ("integration_id", (Json.get · "integration_id")),
   ("is_3d_secure", (Json.get · "is_3d_secure")),
   ("is_auth", (Json.get · "is_auth")),
   ("is_capture", (Json.get · "is_capture")),
   ("is_refunded", (Json.get · "is_refunded")),
   ("is_standalone_payment", (Json.get · "is_standalone_payment")),
   ("is_voided", (Json.get · "is_voided")),
   ("order.id", (nested · "order" "id")),
   ("owner", (Json.get · "owner")),
   ("pending", (Json.get · "pending")),
   ("source_data.pan", (nested · "source_data" "pan")),
   ("source_data.sub_type", (nested · "source_data" "sub_type")),
   ("source_data.type", (nested · "source_data" "type")),
   ("success", (Json.get · "success"))]

def hmacValue : Option Json → String
  | none | some .null => ""
  | some (.boolean value) => if value then "true" else "false"
  | some (.object fields) =>
      match Json.get fields "id" with
      | some id => id.text
      | none => Json.stringify (.object fields)
  | some (.array items) => Json.stringify (.array items)
  | some value => value.text

/-- The rendered fields, in the order in which they are signed. -/
def rendered (transaction : Transaction) : List String :=
  hmacFields.map fun field => hmacValue (field.2 transaction)

/-- The text that the signature covers. -/
def canonical (transaction : Transaction) : String := String.join (rendered transaction)

/-- The value of a hexadecimal digit. -/
def hexValue (char : Char) : Option Nat :=
  if '0' ≤ char ∧ char ≤ '9' then some (char.toNat - 48)
  else if 'a' ≤ char ∧ char ≤ 'f' then some (char.toNat - 87)
  else if 'A' ≤ char ∧ char ≤ 'F' then some (char.toNat - 55)
  else none

/-- `Buffer.from(text, "hex")`: whole bytes, up to the first that is not one. -/
def hexBytes : List Char → Bytes
  | high :: low :: rest =>
      match hexValue high, hexValue low with
      | some high, some low => UInt8.ofNat (16 * high + low) :: hexBytes rest
      | _, _ => []
  | _ => []

def verifyPaymobHmac (host : Host) (transaction : Transaction) (receivedHmac secret : String) :
    Bool :=
  if receivedHmac = "" ∨ secret = "" then false
  else hexBytes receivedHmac.toList =
    hexBytes (host.hmacSha512 secret (canonical transaction)).toList

/-- `parsePaymobPayload`: the `type`, the `hmac` and the transaction of a callback. -/
def parsePaymobPayload (value : Json) :
    Except ProviderError (Option Json × Option Json × Transaction) :=
  match value with
  | .object fields =>
      match Json.get fields "obj" with
      | some (.object transaction) =>
          match Json.get fields "type" with
          | none => .ok (none, Json.get fields "hmac", transaction)
          | some (.string type) =>
              .ok (some (.string type), Json.get fields "hmac", transaction)
          | some _ => .error .payload
      | _ => .error .payload
  | _ => .error .payload

def readMerchantReference (value : Option Json) : Except ProviderError String :=
  match value with
  | some (.object order) =>
      match Json.orElse (Json.get order "merchant_order_id") (Json.get order "id") with
      | some (.string reference) => .ok reference
      | some (.number reference) => .ok reference.text
      | _ => .error .payload
  | _ => .error .payload

def readInteger (value : Option Json) : Except ProviderError Int :=
  match value with
  | some (.number (.integer value)) =>
      if (Number.integer value).isSafeInteger = true ∧ 0 ≤ value then .ok value
      else .error .payload
  | _ => .error .payload

def readString (value : Option Json) : Except ProviderError String :=
  match value with
  | some (.string value) => if value = "" then .error .payload else .ok value
  | _ => .error .payload

/-- Whether `text.includes(part)`. -/
def includes (text part : String) : Bool := part.toList <:+: text.toList

def paymentModeFromSource (host : Host) (value : Option Json) : BillingPaymentMode :=
  match value with
  | some (.object source) =>
      let sourceType := host.toLowerCase <|
        ((Json.orElse (Json.get source "type") (some (.string ""))).map Json.text).getD ""
      if includes sourceType "wallet" then .wallet
      else if includes sourceType "cash" || includes sourceType "kiosk" then .reference
      else .oneTimeCard
  | _ => .oneTimeCard

/-- `String(value)` of a value that may be missing. -/
def textOf : Option Json → String
  | none => "undefined"
  | some value => value.text

def eventTypeOf (transaction : Transaction) : ProviderEventType :=
  match Json.get transaction "pending", Json.get transaction "success" with
  | some (.boolean true), _ => .checkoutPending
  | _, some (.boolean true) => .checkoutPaid
  | _, _ => .checkoutFailed

/-- The merchant's HMAC secret, read from the configuration. -/
structure Config where
  hmacSecret : String

/-- `payload.type ?? "TRANSACTION"`, upper-cased. -/
def typeOf (host : Host) (type : Option Json) : String :=
  host.toUpperCase (textOf (Json.orElse type (some (.string "TRANSACTION"))))

/-- `input.signature ?? (typeof payload.hmac === "string" ? payload.hmac : "")` -/
def receivedHmac (signature : Option String) (hmac : Option Json) : String :=
  match signature, hmac with
  | some signature, _ => signature
  | none, some (.string hmac) => hmac
  | none, _ => ""

def verifyAndParseWebhook (host : Host) (config : Config) (input : ProviderWebhookInput) :
    Except ProviderError PaymentProviderEvent := do
  let (type, hmac, transaction) ← parsePaymobPayload input.body
  if config.hmacSecret = "" ∨ verifyPaymobHmac host transaction
      (receivedHmac input.signature hmac) config.hmacSecret = false then
    throw .signature
  let amountMinor ← readInteger (Json.get transaction "amount_cents")
  let currency := host.toUpperCase (← readString (Json.get transaction "currency"))
  -- `amountMinor / 100` is a safe integer exactly when the division leaves no rest.
  if currency ≠ "EGP" ∨ amountMinor % 100 ≠ 0 then
    throw .payload
  let checkoutRef ← readMerchantReference (Json.get transaction "order")
  let transactionRef := textOf (Json.get transaction "id")
  let createdAt ← readString (Json.get transaction "created_at")
  match host.parseDate createdAt with
  | none => throw .payload
  | some occurredAt =>
      return {
        provider := "paymob"
        externalEventId := typeOf host type ++ ":" ++ transactionRef
        fingerprint := host.sha256 (input.rawBody.getD (utf8 input.body.stringify))
        eventType := eventTypeOf transaction
        checkoutRef
        transactionRef
        amountEgp := amountMinor / 100
        currency := "EGP"
        paymentMode := paymentModeFromSource host (Json.get transaction "source_data")
        signatureValid := true
        occurredAt }

/-- `PaymobPaymentProvider` -/
def provider (host : Host) (config : Config) : PaymentProviderPort where
  name := "paymob"
  verifyAndParseWebhook := verifyAndParseWebhook host config

end MarketMind.Billing.Paymob
