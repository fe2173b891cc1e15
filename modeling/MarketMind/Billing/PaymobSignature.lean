import Mathlib
import MarketMind.Billing.Paymob

/-!
Owns what the Paymob signature authenticates. Two accepted callbacks with one
HMAC have the same canonical text; the events read from them agree on the
fields whose boundaries in that text, and whose JSON kinds, agree. Nothing ties
the unsigned `type` and `merchant_order_id`.
-/

namespace MarketMind.Billing.Paymob

open MarketMind

/-- The transaction of a callback body. -/
def transactionOf (body : Json) : Transaction :=
  match parsePaymobPayload body with
  | .ok (_, _, transaction) => transaction
  | .error _ => []

/-- The event type that a callback body names. -/
def typeIn (body : Json) : Option Json :=
  match parsePaymobPayload body with
  | .ok (type, _, _) => type
  | .error _ => none

/-- The HMAC that comes with a request. -/
def hmacOf (input : ProviderWebhookInput) : String :=
  match parsePaymobPayload input.body with
  | .ok (_, hmac, _) => receivedHmac input.signature hmac
  | .error _ => ""

/-- What an accepted callback was read from. -/
structure Reading (host : Host) (config : Config) (input : ProviderWebhookInput)
    (event : PaymentProviderEvent) (amountMinor : Int) : Prop where
  signed : hexBytes (hmacOf input).toList =
    hexBytes (host.hmacSha512 config.hmacSecret (canonical (transactionOf input.body))).toList
  amount : readInteger (Json.get (transactionOf input.body) "amount_cents") = .ok amountMinor
  amountEgp : event.amountEgp = amountMinor / 100
  reference : readMerchantReference (Json.get (transactionOf input.body) "order") =
    .ok event.checkoutRef
  transactionRef : event.transactionRef = textOf (Json.get (transactionOf input.body) "id")
  eventType : event.eventType = eventTypeOf (transactionOf input.body)
  provider : event.provider = "paymob"
  externalEventId : event.externalEventId =
    typeOf host (typeIn input.body) ++ ":" ++ event.transactionRef

/-- A computation that succeeds went through each of its steps. -/
private theorem bind_eq_ok {ε α β : Type} {first : Except ε α} {next : α → Except ε β} {result : β}
    (succeeded : (first >>= next) = .ok result) :
    ∃ value, first = .ok value ∧ next value = .ok result := by
  cases first with
  | error error => cases succeeded
  | ok value => exact ⟨value, rfl, succeeded⟩

/-- A check that was passed did not apply. -/
private theorem guard_eq_ok {ε α : Type} {condition : Prop} [Decidable condition] {error : ε}
    {next : Except ε α} {result : α}
    (succeeded : (if condition then throw error else next) = .ok result) :
    ¬condition ∧ next = .ok result := by
  by_cases applies : condition
  · rw [if_pos applies] at succeeded
    cases succeeded
  · rw [if_neg applies] at succeeded
    exact ⟨applies, succeeded⟩

theorem reading_of_accepted {host : Host} {config : Config} {input : ProviderWebhookInput}
    {event : PaymentProviderEvent}
    (accepted : verifyAndParseWebhook host config input = .ok event) :
    ∃ amountMinor, Reading host config input event amountMinor := by
  unfold verifyAndParseWebhook at accepted
  obtain ⟨⟨type, hmac, transaction⟩, parsed, accepted⟩ := bind_eq_ok accepted
  have sameTransaction : transactionOf input.body = transaction := by
    simp only [transactionOf, parsed]
  have sameHmac : hmacOf input = receivedHmac input.signature hmac := by
    simp only [hmacOf, parsed]
  have sameType : typeIn input.body = type := by
    simp only [typeIn, parsed]
  obtain ⟨verified, accepted⟩ := guard_eq_ok accepted
  obtain ⟨amountMinor, amount, accepted⟩ := bind_eq_ok accepted
  obtain ⟨currency, -, accepted⟩ := bind_eq_ok accepted
  obtain ⟨-, accepted⟩ := guard_eq_ok accepted
  obtain ⟨checkoutRef, reference, accepted⟩ := bind_eq_ok accepted
  obtain ⟨createdAt, -, accepted⟩ := bind_eq_ok accepted
  have signed : verifyPaymobHmac host transaction (receivedHmac input.signature hmac)
      config.hmacSecret = true := by
    simpa using (not_or.mp verified).2
  unfold verifyPaymobHmac at signed
  split at signed
  · cases signed
  · cases dated : host.parseDate createdAt with
    | none =>
        rw [dated] at accepted
        cases accepted
    | some occurredAt =>
        rw [dated] at accepted
        cases accepted
        refine ⟨amountMinor, ?_, ?_, rfl, ?_, ?_, ?_, rfl, ?_⟩
        · rw [sameHmac, sameTransaction]
          exact of_decide_eq_true signed
        · rw [sameTransaction]
          exact amount
        · rw [sameTransaction]
          exact reference
        · rw [sameTransaction]
        · rw [sameTransaction]
        · rw [sameType]

/-! ### From the canonical text back to the fields -/

/-- The rendered fields of two transactions have the same lengths, one by one. -/
def SameLayout (left right : Transaction) : Prop :=
  (rendered left).map String.length = (rendered right).map String.length

instance (left right : Transaction) : Decidable (SameLayout left right) := by
  unfold SameLayout
  infer_instance

/-- A string, a number or a boolean: what the signature and the parser render alike. -/
def isScalar : Option Json → Bool
  | some (.string _) | some (.number _) | some (.boolean _) => true
  | _ => false

def isBoolean : Option Json → Bool
  | some (.boolean _) => true
  | _ => false

theorem hmacValue_eq_textOf {value : Option Json} (scalar : isScalar value = true) :
    hmacValue value = textOf value := by
  match value, scalar with
  | some (.string _), _ => rfl
  | some (.number _), _ => rfl
  | some (.boolean _), _ => rfl

theorem boolean_eq_of_hmacValue {left right : Option Json} (leftBoolean : isBoolean left = true)
    (rightBoolean : isBoolean right = true) (same : hmacValue left = hmacValue right) :
    left = right := by
  match left, right, leftBoolean, rightBoolean with
  | some (.boolean left), some (.boolean right), _, _ =>
      cases left <;> cases right <;> first | rfl | exact absurd same (by decide)

/-- With the boundaries known, the canonical text determines every rendered field. -/
theorem rendered_eq_of_canonical {left right : Transaction}
    (same : canonical left = canonical right) (layout : SameLayout left right) :
    rendered left = rendered right := by
  have texts : ((rendered left).map String.toList).flatten =
      ((rendered right).map String.toList).flatten := by
    have lists := congrArg String.toList same
    simpa only [canonical, String.toList_join, List.flatMap_def] using lists
  have lengths : ((rendered left).map String.toList).map List.length =
      ((rendered right).map String.toList).map List.length := by
    simpa only [SameLayout, List.map_map, Function.comp_def, String.length_toList] using layout
  have lists := List.eq_iff_flatten_eq.mpr ⟨texts, lengths⟩
  exact List.map_injective_iff.mpr (fun _ _ => String.toList_inj.mp) lists

theorem hmacValue_eq_of_rendered {left right : Transaction} (same : rendered left = rendered right)
    {field : String × (Transaction → Option Json)} (member : field ∈ hmacFields) :
    hmacValue (field.2 left) = hmacValue (field.2 right) :=
  List.map_inj_left.mp same field member

private theorem get_of_readInteger {value : Option Json} {amount : Int}
    (read : readInteger value = .ok amount) : value = some (.number (.integer amount)) := by
  unfold readInteger at read
  split at read
  · split at read
    · cases read
      rfl
    · cases read
  · cases read

/-- The merchant's reference is `merchant_order_id`, or else the signed `order.id`. -/
private theorem reference_eq {transaction : Transaction} {reference : String}
    (read : readMerchantReference (Json.get transaction "order") = .ok reference) :
    reference = match Json.orElse (nested transaction "order" "merchant_order_id") none with
      | some value => value.text
      | none => hmacValue (nested transaction "order" "id") := by
  unfold readMerchantReference at read
  split at read
  · next order found =>
    simp only [nested, found]
    cases merchant : Json.get order "merchant_order_id" with
    | none =>
        simp only [merchant, Json.orElse] at read ⊢
        split at read
        · next same =>
          cases read
          rw [same]
          rfl
        · next same =>
          cases read
          rw [same]
          rfl
        · cases read
    | some value =>
        cases value <;> simp only [merchant, Json.orElse] at read ⊢
        case null =>
          split at read
          · next same =>
            cases read
            rw [same]
            rfl
          · next same =>
            cases read
            rw [same]
            rfl
          · cases read
        all_goals cases read
        all_goals rfl
  · cases read

/-- The HMAC does not collide on the canonical texts of the two callbacks. -/
def CollisionFree (host : Host) (config : Config) (left right : ProviderWebhookInput) : Prop :=
  hexBytes (host.hmacSha512 config.hmacSecret (canonical (transactionOf left.body))).toList =
    hexBytes (host.hmacSha512 config.hmacSecret (canonical (transactionOf right.body))).toList →
  canonical (transactionOf left.body) = canonical (transactionOf right.body)

/-- Two accepted callbacks with one HMAC have one canonical text. When its
fields have the same lengths in both, the events agree on the amount; on the
transaction when both ids are scalars; on the event type when `pending` and
`success` are booleans; on the checkout when the unsigned `merchant_order_id`
agrees; and on the event id when also the unsigned `type` does. -/
theorem events_agree_of_signature {host : Host} {config : Config}
    {left right : ProviderWebhookInput} {leftEvent rightEvent : PaymentProviderEvent}
    (leftAccepted : verifyAndParseWebhook host config left = .ok leftEvent)
    (rightAccepted : verifyAndParseWebhook host config right = .ok rightEvent)
    (sameHmac : hmacOf left = hmacOf right)
    (collisionFree : CollisionFree host config left right) :
    canonical (transactionOf left.body) = canonical (transactionOf right.body) ∧
    (SameLayout (transactionOf left.body) (transactionOf right.body) →
      leftEvent.amountEgp = rightEvent.amountEgp ∧
      (isScalar (Json.get (transactionOf left.body) "id") = true →
        isScalar (Json.get (transactionOf right.body) "id") = true →
          leftEvent.transactionRef = rightEvent.transactionRef ∧
          (typeOf host (typeIn left.body) = typeOf host (typeIn right.body) →
            leftEvent.externalEventId = rightEvent.externalEventId)) ∧
      ((∀ name ∈ ["pending", "success"],
          isBoolean (Json.get (transactionOf left.body) name) = true ∧
          isBoolean (Json.get (transactionOf right.body) name) = true) →
        leftEvent.eventType = rightEvent.eventType) ∧
      (nested (transactionOf left.body) "order" "merchant_order_id" =
          nested (transactionOf right.body) "order" "merchant_order_id" →
        leftEvent.checkoutRef = rightEvent.checkoutRef)) := by
  obtain ⟨leftAmount, leftReading⟩ := reading_of_accepted leftAccepted
  obtain ⟨rightAmount, rightReading⟩ := reading_of_accepted rightAccepted
  have sameText : canonical (transactionOf left.body) = canonical (transactionOf right.body) := by
    apply collisionFree
    rw [← leftReading.signed, ← rightReading.signed, sameHmac]
  refine ⟨sameText, fun layout => ?_⟩
  have sameFields := rendered_eq_of_canonical sameText layout
  have field := @hmacValue_eq_of_rendered _ _ sameFields
  have amount : leftEvent.amountEgp = rightEvent.amountEgp := by
    have values := @field ("amount_cents", (Json.get · "amount_cents")) (by simp [hmacFields])
    simp only [get_of_readInteger leftReading.amount, get_of_readInteger rightReading.amount]
      at values
    have same : leftAmount = rightAmount := Int.repr_injective values
    rw [leftReading.amountEgp, rightReading.amountEgp, same]
  refine ⟨amount, ?_, ?_, ?_⟩
  · intro leftScalar rightScalar
    have values := @field ("id", (Json.get · "id")) (by simp [hmacFields])
    have transaction : leftEvent.transactionRef = rightEvent.transactionRef := by
      rw [leftReading.transactionRef, rightReading.transactionRef,
        ← hmacValue_eq_textOf leftScalar, ← hmacValue_eq_textOf rightScalar]
      exact values
    refine ⟨transaction, fun sameType => ?_⟩
    rw [leftReading.externalEventId, rightReading.externalEventId, sameType, transaction]
  · intro booleans
    have pendingKind := booleans "pending" (by simp)
    have successKind := booleans "success" (by simp)
    have pending := boolean_eq_of_hmacValue pendingKind.1 pendingKind.2
      (@field ("pending", (Json.get · "pending")) (by simp [hmacFields]))
    have success := boolean_eq_of_hmacValue successKind.1 successKind.2
      (@field ("success", (Json.get · "success")) (by simp [hmacFields]))
    rw [leftReading.eventType, rightReading.eventType]
    unfold eventTypeOf
    rw [pending, success]
  · intro sameMerchant
    have values := @field ("order.id", (nested · "order" "id")) (by simp [hmacFields])
    rw [reference_eq leftReading.reference, reference_eq rightReading.reference, sameMerchant,
      values]

/-! ### Two bodies under one signature -/

/-- A callback for one card payment, with the fields in which copies of it differ. -/
def callback (fields : List (String × Json)) (amountCents : Int) (createdAt : String)
    (id integrationId : Int) (merchantOrderId : String) (success : Json) : ProviderWebhookInput where
  body := .object (fields ++ [("obj", .object
    [("amount_cents", .number (.integer amountCents)),
     ("created_at", .string createdAt),
     ("currency", .string "EGP"),
     ("error_occured", .boolean false),
     ("has_parent_transaction", .boolean false),
     ("id", .number (.integer id)),
     ("integration_id", .number (.integer integrationId)),
     ("is_3d_secure", .boolean false),
     ("is_auth", .boolean true),
     ("is_capture", .boolean true),
     ("is_refunded", .boolean false),
     ("is_standalone_payment", .boolean true),
     ("is_voided", .boolean false),
     ("order", .object [("id", .number (.integer 77)),
       ("merchant_order_id", .string merchantOrderId)]),
     ("owner", .number (.integer 9)),
     ("pending", .boolean false),
     ("source_data", .object [("pan", .string "0000"), ("sub_type", .string "Test"),
       ("type", .string "card")]),
     ("success", success)])])
  rawBody := none
  signature := none

/-- The HMAC-SHA512 of the canonical text of `original` under the secret `"secret"`. -/
def signedHmac : String :=
  "653cab90274f01fb6a21cf4107cdea2e0e0b64b216f0b155b9ede6b04f4c1a12" ++
    "66c1108d1cd171a7774d3bf1aefb10af96816f5fbbfa67f2341ac009a3180d4f"

/-- A paid callback as the provider sends it. -/
def original : ProviderWebhookInput :=
  callback [("type", .string "TRANSACTION"), ("hmac", .string signedHmac)] 1000 "1 Jan 2024" 123 456
    "checkout-a" (.boolean true)

/-- The same signed text cut up differently, under another type and reference. -/
def altered : ProviderWebhookInput :=
  callback [("type", .string "TOKEN"), ("hmac", .string signedHmac)] 100 "01 Jan 2024" 12 3456
    "checkout-b" (.string "true")

/-- A host on which both dates are the first of January 2024. -/
def sampleHost : Host where
  hmacSha512 _ message :=
    if message = canonical (transactionOf original.body) then signedHmac else message
  hmacSha256 _ _ := ""
  sha256 _ := ""
  toUpperCase text := text.map Char.toUpper
  toLowerCase text := text.map Char.toLower
  parseDate text :=
    if text = "1 Jan 2024" ∨ text = "01 Jan 2024" then some 1704060000000 else none

def sampleConfig : Config := ⟨"secret"⟩

/-- What the two callbacks are read as. -/
def originalEvent : PaymentProviderEvent where
  provider := "paymob"
  externalEventId := "TRANSACTION:123"
  fingerprint := ""
  eventType := .checkoutPaid
  checkoutRef := "checkout-a"
  transactionRef := "123"
  amountEgp := 10
  currency := "EGP"
  paymentMode := .oneTimeCard
  signatureValid := true
  occurredAt := 1704060000000

def alteredEvent : PaymentProviderEvent where
  provider := "paymob"
  externalEventId := "TOKEN:12"
  fingerprint := ""
  eventType := .checkoutFailed
  checkoutRef := "checkout-b"
  transactionRef := "12"
  amountEgp := 1
  currency := "EGP"
  paymentMode := .oneTimeCard
  signatureValid := true
  occurredAt := 1704060000000

private theorem original_accepted :
    verifyAndParseWebhook sampleHost sampleConfig original = .ok originalEvent := by
  decide +kernel

private theorem altered_accepted :
    verifyAndParseWebhook sampleHost sampleConfig altered = .ok alteredEvent := by
  decide +kernel

/-- One HMAC accepts two bodies whose events differ in all five fields. -/
theorem signature_leaves_fields_open :
    verifyAndParseWebhook sampleHost sampleConfig original = .ok originalEvent ∧
    verifyAndParseWebhook sampleHost sampleConfig altered = .ok alteredEvent ∧
    hmacOf original = hmacOf altered ∧
    CollisionFree sampleHost sampleConfig original altered ∧
    originalEvent.checkoutRef ≠ alteredEvent.checkoutRef ∧
    originalEvent.transactionRef ≠ alteredEvent.transactionRef ∧
    originalEvent.amountEgp ≠ alteredEvent.amountEgp ∧
    originalEvent.eventType ≠ alteredEvent.eventType ∧
    originalEvent.externalEventId ≠ alteredEvent.externalEventId := by
  refine ⟨original_accepted, altered_accepted, by decide +kernel, fun _ => by decide +kernel, ?_⟩
  decide +kernel

/-- The original without its unsigned `type`. -/
def untyped : ProviderWebhookInput :=
  callback [("hmac", .string signedHmac)] 1000 "1 Jan 2024" 123 456 "checkout-a" (.boolean true)

/-- A copy that leaves the layout alone is read as the same payment. -/
theorem events_agree_on_untyped :
    ∃ event, verifyAndParseWebhook sampleHost sampleConfig untyped = .ok event ∧
      originalEvent.amountEgp = event.amountEgp ∧
      originalEvent.eventType = event.eventType ∧
      originalEvent.checkoutRef = event.checkoutRef ∧
      originalEvent.externalEventId = event.externalEventId := by
  have accepted : verifyAndParseWebhook sampleHost sampleConfig untyped = .ok originalEvent := by
    decide +kernel
  have agree := (events_agree_of_signature original_accepted accepted (by decide +kernel)
    (fun _ => by decide +kernel)).2 (by decide +kernel)
  obtain ⟨amount, transaction, kind, checkout⟩ := agree
  refine ⟨originalEvent, accepted, amount, kind (by decide +kernel), checkout rfl, ?_⟩
  exact (transaction (by decide +kernel) (by decide +kernel)).2 (by decide +kernel)

end MarketMind.Billing.Paymob
