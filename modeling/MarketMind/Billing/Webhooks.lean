import MarketMind.Billing.Service
import MarketMind.Transactions.RelyGuarantee

/-!
Owns how the webhook handler keeps a protocol: outside its transaction it reads,
and records the status of the event; so it keeps whatever its transaction keeps.
-/

namespace MarketMind.Billing

open MarketMind.Transactions MarketMind.Transactions.Protocol

/-- Whether a statement is one that the handler executes outside its transaction. -/
def handlesEvents : Statement → Bool
  | .findEvent _ _ | .findAttempt _ | .createEvent _ | .updateEvent _ _ _ => true
  | _ => false

variable {Call : Type} {sys : System billing World Key Call} {protocol : Protocol sys}
  {pid : Pid} {call : Call}

section Handler

variable (asks : ∀ asked, handlesEvents asked = true →
  protocol.Maintains pid call (@Program.ask billing asked))

include asks

theorem maintains_receiveEvent (existing : Option BillingProviderEvent)
    (attempt : BillingCheckoutAttempt) (event : PaymentProviderEvent) :
    protocol.Maintains pid call (receiveEvent existing attempt event) := by
  unfold receiveEvent
  cases existing with
  | some existing =>
      dsimp only
      split
      · exact maintains_throw _
      · exact maintains_bind (asks _ rfl) fun _ => maintains_pure _
  | none =>
      apply maintains_tryCatch (maintains_bind (asks _ rfl) fun _ => maintains_pure _)
      intro error
      dsimp only
      split
      · apply maintains_bind (asks _ rfl)
        intro raced
        cases raced with
        | none => exact maintains_throw _
        | some raced =>
            dsimp only
            split
            · exact maintains_throw _
            · split
              · exact maintains_pure _
              · exact maintains_pure _
      · exact maintains_throw error

variable (applies : ∀ attempt event,
  protocol.Maintains pid call (Program.transaction (applyEvent attempt event)))

include applies

theorem maintains_processEvent (attempt : BillingCheckoutAttempt) (event : PaymentProviderEvent)
    (duplicateEvent : Bool) :
    protocol.Maintains pid call (processEvent attempt event duplicateEvent) := by
  unfold processEvent
  apply maintains_bind ?_ fun _ => maintains_pure _
  apply maintains_tryCatch
  · exact maintains_bind (applies attempt event) fun _ => asks _ rfl
  · intro error
    exact maintains_bind (asks _ rfl) fun _ => maintains_throw error

theorem maintains_handleEvent (event : PaymentProviderEvent) :
    protocol.Maintains pid call (handleEvent event) := by
  unfold handleEvent
  apply maintains_bind (asks _ rfl)
  intro existing
  dsimp only
  split
  · exact maintains_pure _
  · apply maintains_bind (asks _ rfl)
    intro attempt
    cases attempt with
    | none => exact maintains_throw _
    | some attempt =>
        dsimp only
        split
        · exact maintains_throw _
        · apply maintains_bind (maintains_receiveEvent asks existing attempt event)
          intro received
          cases received with
          | none => exact maintains_pure _
          | some duplicateEvent =>
              exact maintains_processEvent asks applies attempt event duplicateEvent

/-- The handler keeps what its transaction keeps, with any provider. -/
theorem maintains_handleWebhook (port : PaymentProviderPort) (providerName : String)
    (input : ProviderWebhookInput) :
    protocol.Maintains pid call (handleWebhook port providerName input) := by
  unfold handleWebhook
  split
  · exact maintains_throw _
  · split
    · exact maintains_throw _
    · exact maintains_throw _
    · exact maintains_handleEvent asks applies _

end Handler

end MarketMind.Billing
