import MarketMind.Billing.Checkouts
import MarketMind.Billing.PaymobSignature
import MarketMind.Transactions.Serial

/-!
Owns what a sequence of callbacks for one provider transaction does to the
wallet. All of them share one event id, so the first callback with the right
amount settles the transaction: its points are credited exactly when that
callback is the paid one.
-/

namespace MarketMind.Billing

open MarketMind.Transactions MarketMind.Transactions.Store

/-- One callback, with what the environment decides while it is handled. -/
structure Delivery where
  input : ProviderWebhookInput
  schedule : Schedule

section Deliveries

variable (host : Host) (config : Paymob.Config)

/-- The world after one callback. -/
def deliver (world : World) (delivery : Delivery) : World :=
  (store.call delivery.schedule
    (handleWebhook (Paymob.provider host config) "paymob" delivery.input) world).2

/-- The world after the callbacks, one after the other. -/
def deliverAll (deliveries : List Delivery) (world : World) : World :=
  deliveries.foldl (deliver host config) world

/-- The event of a valid callback. -/
def eventOf (delivery : Delivery) : Option PaymentProviderEvent :=
  (Paymob.verifyAndParseWebhook host config delivery.input).toOption

/-- A valid `TRANSACTION` callback for one transaction of one checkout, which the
database handles without a fault. -/
structure Belongs (checkoutRef transactionRef : String) (delivery : Delivery)
    (event : PaymentProviderEvent) : Prop where
  accepted : Paymob.verifyAndParseWebhook host config delivery.input = .ok event
  isTransaction : Paymob.typeOf host (Paymob.typeIn delivery.input.body) = "TRANSACTION"
  checkout : event.checkoutRef = checkoutRef
  reference : event.transactionRef = transactionRef
  sound : ∀ count, delivery.schedule.faults count = false

end Deliveries

/-- The event has the amount that the server priced. -/
def prices (attempt : BillingCheckoutAttempt) (event : PaymentProviderEvent) : Bool :=
  attempt.amountEgp = event.amountEgp ∧ attempt.currency = event.currency

/-- The event id that all callbacks of a transaction share. -/
def transactionEventId (transactionRef : String) : String := "TRANSACTION:" ++ transactionRef

/-- A checkout whose transaction the database has not heard of. -/
structure Awaiting (world : World) (attempt : BillingCheckoutAttempt)
    (bundle : BillingPointBundle) (balance : BillingPointBalance)
    (checkoutRef transactionRef : String) : Prop where
  checkout : world.findAttempt checkoutRef = some attempt
  bundle : getBillingBundle attempt.priceCode = some bundle
  wallet : world.findBalance attempt.billingAccountId = some balance
  newEvent : world.findEvent "paymob" (transactionEventId transactionRef) = none
  newTransaction : world.findTransaction "paymob" transactionRef = none
  newTopUp : world.findLedger attempt.billingAccountId ("topup:" ++ transactionRef) = none
  newNotice : world.outbox.any
    (·.dedupeKey = "paymob:" ++ transactionEventId transactionRef) = false

/-- The event of the transaction has been processed. -/
def Settled (world : World) (transactionRef : String) : Prop :=
  ∃ event, world.findEvent "paymob" (transactionEventId transactionRef) = some event ∧
    event.status = .processed

/-- The top-ups of the transaction. -/
def topUpsOf (world : World) (account : Uuid) (transactionRef : String) :
    List BillingPointLedger :=
  (world.ledgerOf account).filter fun row =>
    row.reason = .topup ∧ row.claimKey = "topup:" ++ transactionRef

/-- There is exactly one top-up for the transaction, and the balance has grown by
the points once. -/
def CreditedOnce (before after : World) (account : Uuid) (points : Int)
    (transactionRef : String) : Prop :=
  (topUpsOf after account transactionRef).length = 1 ∧
    ∃ old new, before.findBalance account = some old ∧ after.findBalance account = some new ∧
      new.balance = old.balance + points

section Deliver

variable {host : Host} {config : Paymob.Config} {checkoutRef transactionRef : String}
  {attempt : BillingCheckoutAttempt} {bundle : BillingPointBundle} {balance : BillingPointBalance}
  {world : World} {delivery : Delivery} {event : PaymentProviderEvent}

theorem Belongs.provider (belongs : Belongs host config checkoutRef transactionRef delivery event) :
    event.provider = "paymob" := by
  obtain ⟨amountMinor, reading⟩ := Paymob.reading_of_accepted belongs.accepted
  exact reading.provider

theorem Belongs.eventId (belongs : Belongs host config checkoutRef transactionRef delivery event) :
    event.externalEventId = transactionEventId transactionRef := by
  obtain ⟨amountMinor, reading⟩ := Paymob.reading_of_accepted belongs.accepted
  rw [reading.externalEventId, belongs.isTransaction, belongs.reference]
  rfl

/-- A callback is handled as its event. -/
theorem deliver_of_completes (Q : World → Prop)
    (belongs : Belongs host config checkoutRef transactionRef delivery event)
    (completes : store.Completes delivery.schedule (handleEvent event) (fun _ _ after => Q after)
      none world) : Q (deliver host config world delivery) := by
  have same : handleWebhook (Paymob.provider host config) "paymob" delivery.input =
      handleEvent event := by
    have verified : (Paymob.provider host config).verifyAndParseWebhook delivery.input =
        .ok event := belongs.accepted
    unfold handleWebhook
    rw [verified]
    rfl
  unfold deliver Store.call
  rw [same]
  exact completes.ends 0

/-- A settled transaction stays as it is. -/
theorem deliver_settled
    (belongs : Belongs host config checkoutRef transactionRef delivery event)
    (settled : Settled world transactionRef) : deliver host config world delivery = world := by
  obtain ⟨existing, found, processed⟩ := settled
  apply deliver_of_completes (· = world) belongs
  unfold handleEvent
  apply completes_bind
  apply completes_read_alone belongs.sound fun _ => rfl
  have isProcessed : (world.findEvent event.provider event.externalEventId).any
      (·.status = .processed) = true := by
    simp [belongs.provider, belongs.eventId, found, processed]
  simp only [thenCompletes, isProcessed, if_true]
  exact completes_pure rfl

/-- The handler reads that the event is new, and finds the checkout. -/
theorem completes_awaiting (Q : World → Prop)
    (belongs : Belongs host config checkoutRef transactionRef delivery event)
    (awaiting : Awaiting world attempt bundle balance checkoutRef transactionRef)
    (goesOn : store.Completes delivery.schedule
      (if attempt.amountEgp ≠ event.amountEgp ∨ attempt.currency ≠ event.currency then
        throw (.domain "BILLING_AMOUNT_MISMATCH"
          "The confirmed payment amount does not match the server-priced checkout.")
      else do
        match ← receiveEvent none attempt event with
        | none => return ⟨true, true⟩
        | some duplicateEvent => processEvent attempt event duplicateEvent)
      (fun _ _ after => Q after) none world) : Q (deliver host config world delivery) := by
  apply deliver_of_completes Q belongs
  unfold handleEvent
  apply completes_bind
  apply completes_read_alone belongs.sound fun _ => rfl
  have isNew : world.findEvent event.provider event.externalEventId = none := by
    rw [belongs.provider, belongs.eventId]
    exact awaiting.newEvent
  simp only [thenCompletes, isNew, Option.any_none, Bool.false_eq_true, if_false]
  apply completes_bind
  apply completes_read_alone belongs.sound fun _ => rfl
  have found : world.findAttempt event.checkoutRef = some attempt := by
    rw [belongs.checkout]
    exact awaiting.checkout
  simp only [thenCompletes, found]
  exact goesOn

/-- A callback with another amount changes nothing. -/
theorem deliver_mispriced
    (belongs : Belongs host config checkoutRef transactionRef delivery event)
    (awaiting : Awaiting world attempt bundle balance checkoutRef transactionRef)
    (mispriced : prices attempt event = false) : deliver host config world delivery = world := by
  apply completes_awaiting (· = world) belongs awaiting
  rw [if_pos]
  · exact completes_throw rfl
  · simpa [prices, imp_iff_not_or] using mispriced

/-- The row of an event that has been received. -/
def receivedEvent (attempt : BillingCheckoutAttempt) (event : PaymentProviderEvent) :
    BillingProviderEvent where
  billingAccountId := attempt.billingAccountId
  provider := event.provider
  externalEventId := event.externalEventId
  fingerprint := event.fingerprint
  eventType := event.eventType
  signatureValid := event.signatureValid
  status := .received

/-- The world in which the event of a callback is applied. -/
def receiving (world : World) (attempt : BillingCheckoutAttempt) (event : PaymentProviderEvent) :
    World :=
  { world with events := world.events ++ [receivedEvent attempt event] }

theorem findEvent_receiving
    (isNew : world.findEvent event.provider event.externalEventId = none) :
    (receiving world attempt event).findEvent event.provider event.externalEventId =
      some (receivedEvent attempt event) := by
  unfold World.findEvent at isNew ⊢
  unfold receiving
  rw [List.find?_append, isNew, Option.none_or, List.find?_cons_of_pos]
  simp [receivedEvent]

theorem completes_receiveEvent {schedule : Schedule}
    {Q : Except billing.Error (Option Bool) → Option (Session World Key) → World → Prop}
    (sound : ∀ count, schedule.faults count = false)
    (isNew : world.findEvent event.provider event.externalEventId = none)
    (goesOn : Q (.ok (some false)) none (receiving world attempt event)) :
    store.Completes schedule (receiveEvent none attempt event) Q none world := by
  unfold receiveEvent
  apply completes_tryCatch
  apply completes_bind
  apply completes_ask_alone sound
  intro choice
  refine ⟨_, if_neg ?_, completes_pure goesOn⟩
  simp [isNew]

/-- What a transaction that applies the event makes of the wallets. -/
def Applies (schedule : Schedule) (attempt : BillingCheckoutAttempt) (event : PaymentProviderEvent)
    (world : World) (R : World → Prop) : Prop :=
  store.Completes schedule (Program.transaction (applyEvent attempt event))
    (fun outcome session after =>
      outcome = .ok () ∧ session = none ∧ after.events = world.events ∧ R after) none world

/-- A callback with the right amount settles the transaction. -/
theorem deliver_priced {R : World → Prop}
    (belongs : Belongs host config checkoutRef transactionRef delivery event)
    (awaiting : Awaiting world attempt bundle balance checkoutRef transactionRef)
    (priced : prices attempt event = true)
    (applies : Applies delivery.schedule attempt event (receiving world attempt event) R) :
    Settled (deliver host config world delivery) transactionRef ∧
      ∃ after, R after ∧ (deliver host config world delivery).ledger = after.ledger ∧
        (deliver host config world delivery).balances = after.balances := by
  have sameAmount : attempt.amountEgp = event.amountEgp ∧ attempt.currency = event.currency := by
    simpa [prices] using priced
  have isNew : world.findEvent event.provider event.externalEventId = none := by
    rw [belongs.provider, belongs.eventId]
    exact awaiting.newEvent
  apply completes_awaiting (fun final => Settled final transactionRef ∧
    ∃ after, R after ∧ final.ledger = after.ledger ∧ final.balances = after.balances) belongs awaiting
  rw [if_neg (by simp [sameAmount])]
  apply completes_bind
  apply completes_receiveEvent belongs.sound isNew
  unfold processEvent
  apply completes_bind
  apply completes_tryCatch
  apply completes_bind
  apply applies.mono
  rintro outcome session after ⟨rfl, rfl, events, holds⟩
  have received : after.findEvent event.provider event.externalEventId =
      some (receivedEvent attempt event) := by
    rw [← findEvent_receiving isNew]
    simp only [World.findEvent, events]
  apply completes_ask_alone belongs.sound
  intro choice
  refine ⟨_, if_pos (by simp [received]), ?_⟩
  refine completes_pure ⟨⟨{ receivedEvent attempt event with status := .processed }, ?_, rfl⟩,
    after, holds, rfl, rfl⟩
  rw [← belongs.provider, ← belongs.eventId]
  unfold World.findEvent at received ⊢
  rw [find?_updateWhere, received]
  · simp [receivedEvent]
  · exact fun _ => rfl

/-- A pending or failed callback settles the transaction without a credit. -/
theorem applies_unpaid {schedule : Schedule} (sound : ∀ count, schedule.faults count = false)
    (unpaid : event.eventType ≠ .checkoutPaid) (known : attempt ∈ world.attempts) :
    Applies schedule attempt event world fun after =>
      after.ledger = world.ledger ∧ after.balances = world.balances := by
  have listed : world.attempts.any (·.id = attempt.id) = true :=
    List.any_eq_true.mpr ⟨attempt, known, decide_eq_true rfl⟩
  apply completes_transaction
  unfold applyEvent
  cases kind : event.eventType with
  | checkoutPaid => exact absurd kind unpaid
  | checkoutPending | checkoutFailed =>
      apply completes_ask_open sound rfl
      intro choice
      exact ⟨_, if_pos listed, _, _, rfl, rfl, rfl, rfl, rfl, rfl, rfl, rfl, rfl⟩

/-- The top-up that a paid callback posts. -/
def topUpRow (attempt : BillingCheckoutAttempt) (event : PaymentProviderEvent)
    (bundle : BillingPointBundle) (balance : BillingPointBalance) (transaction : Uuid) :
    BillingPointLedger where
  billingAccountId := attempt.billingAccountId
  direction := .credit
  reason := .topup
  metric := none
  points := bundle.points
  balanceAfter := balance.balance + bundle.points
  claimKey := "topup:" ++ event.transactionRef
  transactionId := some transaction

/-- The balance row after a paid callback. -/
def creditedRow (bundle : BillingPointBundle) (balanceAfter : Int) (row : BillingPointBalance) :
    BillingPointBalance :=
  { row with
    balance := balanceAfter
    lifetimeGranted := row.lifetimeGranted + bundle.points
    lifetimeSpent := row.lifetimeSpent + 0 }

theorem exec_updateBalance (choice : Nat) {account : Uuid} {data : BalanceUpdate}
    (found : world.findBalance account = some balance) :
    exec choice (.updateBalance account data) world =
      .ok ⟨{ balance with
          balance := data.balance
          lifetimeGranted := balance.lifetimeGranted + data.lifetimeGranted
          lifetimeSpent := balance.lifetimeSpent + data.lifetimeSpent },
        fun world =>
          { world with
            balances := updateWhere (·.billingAccountId = account)
              (fun row =>
                { row with
                  balance := data.balance
                  lifetimeGranted := row.lifetimeGranted + data.lifetimeGranted
                  lifetimeSpent := row.lifetimeSpent + data.lifetimeSpent }) world.balances },
        [.balance account]⟩ := by
  simp only [exec, found]

/-- A paid callback posts the points of its bundle. -/
theorem applies_paid {schedule : Schedule} (sound : ∀ count, schedule.faults count = false)
    (paid : event.eventType = .checkoutPaid) (known : attempt ∈ world.attempts)
    (priced : getBillingBundle attempt.priceCode = some bundle)
    (wallet : world.findBalance attempt.billingAccountId = some balance)
    (newTransaction : world.findTransaction event.provider event.transactionRef = none)
    (newTopUp : world.findLedger attempt.billingAccountId ("topup:" ++ event.transactionRef) = none)
    (newNotice : world.outbox.any
      (·.dedupeKey = event.provider ++ ":" ++ event.externalEventId) = false) :
    Applies schedule attempt event world fun after =>
      (∃ transaction, after.ledger =
        world.ledger ++ [topUpRow attempt event bundle balance transaction]) ∧
      after.balances = updateWhere (·.billingAccountId = attempt.billingAccountId)
        (creditedRow bundle (balance.balance + bundle.points)) world.balances := by
  have listed : world.attempts.any (·.id = attempt.id) = true :=
    List.any_eq_true.mpr ⟨attempt, known, decide_eq_true rfl⟩
  apply completes_transaction
  unfold applyEvent
  rw [paid]
  unfold applyPaidEvent
  apply completes_bind
  apply completes_read_open sound rfl fun _ => rfl
  simp only [thenCompletes, Session.fresh, id_eq, newTransaction, priced]
  apply completes_bind
  apply completes_ask_open sound rfl
  intro choice
  refine ⟨_, rfl, ?_⟩
  apply completes_bind
  apply completes_ask_open sound rfl
  intro identifier
  refine ⟨_, if_neg (by simp [Session.extend, newTransaction]), ?_⟩
  apply completes_bind
  apply completes_ask_open sound rfl
  intro choice
  refine ⟨_, if_pos listed, ?_⟩
  apply completes_bind
  refine completes_ask_open sound rfl fun choice => ⟨_, congrArg reading wallet, ?_⟩
  apply completes_bind
  refine completes_ask_open sound rfl fun choice => ⟨_, exec_updateBalance choice wallet, ?_⟩
  apply completes_bind
  apply completes_ask_open sound rfl
  intro choice
  refine ⟨_, if_neg ?_, ?_⟩
  · exact Option.not_isSome_iff_eq_none.mpr newTopUp
  · apply completes_ask_open sound rfl
    intro choice
    refine ⟨_, if_neg (Bool.eq_false_iff.mp newNotice), ?_⟩
    exact ⟨_, _, rfl, rfl, rfl, rfl, trivial, trivial, rfl, ⟨_, rfl⟩, rfl⟩

theorem Awaiting.known
    (awaiting : Awaiting world attempt bundle balance checkoutRef transactionRef) :
    attempt ∈ world.attempts :=
  List.mem_of_find?_eq_some awaiting.checkout

/-- Before its callbacks, a transaction has no top-up. -/
theorem Awaiting.topUps
    (awaiting : Awaiting world attempt bundle balance checkoutRef transactionRef) :
    topUpsOf world attempt.billingAccountId transactionRef = [] := by
  have absent : ∀ row ∈ world.ledgerOf attempt.billingAccountId,
      row.claimKey ≠ "topup:" ++ transactionRef := by
    intro row member
    simpa using List.find?_eq_none.mp awaiting.newTopUp row member
  apply List.filter_eq_nil_iff.mpr
  intro row member
  simp [absent row member]

theorem deliver_unpaid
    (belongs : Belongs host config checkoutRef transactionRef delivery event)
    (awaiting : Awaiting world attempt bundle balance checkoutRef transactionRef)
    (priced : prices attempt event = true) (unpaid : event.eventType ≠ .checkoutPaid) :
    Settled (deliver host config world delivery) transactionRef ∧
      topUpsOf (deliver host config world delivery) attempt.billingAccountId transactionRef = [] := by
  obtain ⟨settled, after, ⟨same, -⟩, ledger, -⟩ := deliver_priced belongs awaiting priced
    (applies_unpaid belongs.sound unpaid awaiting.known)
  refine ⟨settled, ?_⟩
  rw [← awaiting.topUps]
  simp only [topUpsOf, World.ledgerOf, ledger, same, receiving]

theorem deliver_paid
    (belongs : Belongs host config checkoutRef transactionRef delivery event)
    (awaiting : Awaiting world attempt bundle balance checkoutRef transactionRef)
    (priced : prices attempt event = true) (paid : event.eventType = .checkoutPaid) :
    Settled (deliver host config world delivery) transactionRef ∧
      CreditedOnce world (deliver host config world delivery) attempt.billingAccountId
        bundle.points transactionRef := by
  have newTransaction : world.findTransaction event.provider event.transactionRef = none := by
    rw [belongs.provider, belongs.reference]
    exact awaiting.newTransaction
  have newTopUp : world.findLedger attempt.billingAccountId
      ("topup:" ++ event.transactionRef) = none := by
    rw [belongs.reference]
    exact awaiting.newTopUp
  have newNotice : world.outbox.any
      (·.dedupeKey = event.provider ++ ":" ++ event.externalEventId) = false := by
    rw [belongs.provider, belongs.eventId]
    exact awaiting.newNotice
  obtain ⟨settled, after, ⟨⟨transaction, rows⟩, changed⟩, ledger, balances⟩ :=
    deliver_priced belongs awaiting priced (applies_paid belongs.sound paid awaiting.known
      awaiting.bundle awaiting.wallet newTransaction newTopUp newNotice)
  refine ⟨settled, ?_, balance, creditedRow bundle (balance.balance + bundle.points) balance,
    awaiting.wallet, ?_, rfl⟩
  · have topUps : topUpsOf (deliver host config world delivery) attempt.billingAccountId
        transactionRef = topUpsOf world attempt.billingAccountId transactionRef ++
          [topUpRow attempt event bundle balance transaction] := by
      simp [topUpsOf, World.ledgerOf, ledger, rows, receiving, topUpRow, belongs.reference]
    rw [topUps, awaiting.topUps]
    rfl
  · have owner : balance.billingAccountId = attempt.billingAccountId := by
      simpa using List.find?_some awaiting.wallet
    have wallet : (receiving world attempt event).balances.find?
        (·.billingAccountId = attempt.billingAccountId) = some balance := awaiting.wallet
    unfold World.findBalance
    rw [balances, changed, find?_updateWhere, wallet]
    · rw [Option.map_some, if_pos (decide_eq_true owner)]
    · exact fun _ => rfl

/-! ### Sequences -/

/-- Once settled, the transaction stays as it is, whatever callbacks follow. -/
theorem deliverAll_settled {deliveries : List Delivery}
    (belong : ∀ delivery ∈ deliveries, ∃ event,
      Belongs host config checkoutRef transactionRef delivery event)
    (settled : Settled world transactionRef) :
    deliverAll host config deliveries world = world := by
  unfold deliverAll
  induction deliveries with
  | nil => rfl
  | cons delivery rest inductionHypothesis =>
      obtain ⟨event, belongs⟩ := belong delivery List.mem_cons_self
      rw [List.foldl_cons, deliver_settled belongs settled]
      exact inductionHypothesis fun later member => belong later (List.mem_cons_of_mem _ member)

/-- The first callback with the right amount decides. -/
theorem deliverAll_first {deliveries : List Delivery} {first : PaymentProviderEvent}
    (belong : ∀ delivery ∈ deliveries, ∃ event,
      Belongs host config checkoutRef transactionRef delivery event)
    (awaiting : Awaiting world attempt bundle balance checkoutRef transactionRef)
    (decides : (deliveries.filterMap (eventOf host config)).find? (prices attempt) = some first) :
    CreditedOnce world (deliverAll host config deliveries world) attempt.billingAccountId
        bundle.points transactionRef ↔ first.eventType = .checkoutPaid := by
  induction deliveries with
  | nil => cases decides
  | cons delivery rest inductionHypothesis =>
      obtain ⟨event, belongs⟩ := belong delivery List.mem_cons_self
      have belongRest : ∀ later ∈ rest, ∃ event,
          Belongs host config checkoutRef transactionRef later event :=
        fun later member => belong later (List.mem_cons_of_mem _ member)
      have isEvent : eventOf host config delivery = some event := by
        simp [eventOf, belongs.accepted, Except.toOption]
      have unfolds : deliverAll host config (delivery :: rest) world =
          deliverAll host config rest (deliver host config world delivery) := rfl
      rw [List.filterMap_cons_some isEvent, List.find?_cons] at decides
      rw [unfolds]
      cases priced : prices attempt event with
      | false =>
          rw [priced] at decides
          rw [deliver_mispriced belongs awaiting priced]
          exact inductionHypothesis belongRest decides
      | true =>
          rw [priced] at decides
          obtain rfl := Option.some.inj decides
          by_cases paid : event.eventType = .checkoutPaid
          · obtain ⟨settled, credited⟩ := deliver_paid belongs awaiting priced paid
            rw [deliverAll_settled belongRest settled]
            exact iff_of_true credited paid
          · obtain ⟨settled, uncredited⟩ := deliver_unpaid belongs awaiting priced paid
            rw [deliverAll_settled belongRest settled]
            apply iff_of_false _ paid
            rintro ⟨one, -⟩
            rw [uncredited] at one
            cases one

/-- A sequence of callbacks with a paid one of the right amount credits the
wallet once if and only if the first of the right amount is paid. -/
theorem credited_iff_first_paid {deliveries : List Delivery}
    (belong : ∀ delivery ∈ deliveries, ∃ event,
      Belongs host config checkoutRef transactionRef delivery event)
    (awaiting : Awaiting world attempt bundle balance checkoutRef transactionRef)
    (paid : ∃ event ∈ deliveries.filterMap (eventOf host config),
      prices attempt event = true ∧ event.eventType = .checkoutPaid) :
    CreditedOnce world (deliverAll host config deliveries world) attempt.billingAccountId
        bundle.points transactionRef ↔
      ((deliveries.filterMap (eventOf host config)).find? (prices attempt)).map (·.eventType) =
        some .checkoutPaid := by
  obtain ⟨event, member, priced, -⟩ := paid
  have decided : ((deliveries.filterMap (eventOf host config)).find? (prices attempt)).isSome :=
    List.find?_isSome.mpr ⟨event, member, priced⟩
  obtain ⟨first, decides⟩ := Option.isSome_iff_exists.mp decided
  rw [deliverAll_first belong awaiting decides, decides]
  simp

end Deliver

/-! ### A pending callback that swallows the paid one -/

/-- A callback of transaction 123 for the started checkout. -/
def callbackDelivery (outcome : SandboxOutcome) : Delivery where
  input := paymobWebhook paymobDeployment startedCheckout outcome
    ⟨"", "", 123, "2024-01-01T00:00:00.000Z"⟩
  schedule := ⟨0, fun _ => 0, fun _ => false⟩

/-- What decides about a callback: its checkout, its transaction, its kind and its price. -/
def readingOf (event : PaymentProviderEvent) : String × String × ProviderEventType × Bool :=
  (event.checkoutRef, event.transactionRef, event.eventType, prices startedCheckout event)

private theorem callback_belongs {outcome : SandboxOutcome}
    (read : (eventOf callbackHost ⟨"secret"⟩ (callbackDelivery outcome)).map readingOf =
      some ("3", "123", outcome.eventType, true)) :
    ∃ event, eventOf callbackHost ⟨"secret"⟩ (callbackDelivery outcome) = some event ∧
      Belongs callbackHost ⟨"secret"⟩ "3" "123" (callbackDelivery outcome) event ∧
      event.eventType = outcome.eventType ∧ prices startedCheckout event = true := by
  obtain ⟨event, isEvent, same⟩ := Option.map_eq_some_iff.mp read
  have accepted : Paymob.verifyAndParseWebhook callbackHost ⟨"secret"⟩
      (callbackDelivery outcome).input = .ok event := by
    unfold eventOf at isEvent
    cases verified : Paymob.verifyAndParseWebhook callbackHost ⟨"secret"⟩
        (callbackDelivery outcome).input with
    | error error =>
        rw [verified] at isEvent
        cases isEvent
    | ok read =>
        rw [verified] at isEvent
        exact congrArg Except.ok (Option.some.inj isEvent)
  simp only [readingOf, Prod.mk.injEq] at same
  obtain ⟨checkout, reference, kind, priced⟩ := same
  refine ⟨event, isEvent, ⟨accepted, ?_, checkout, reference, fun _ => rfl⟩, kind, priced⟩
  cases outcome <;> decide +kernel

private theorem pending_read :
    (eventOf callbackHost ⟨"secret"⟩ (callbackDelivery .pending)).map readingOf =
      some ("3", "123", .checkoutPending, true) := by
  decide +kernel

private theorem paid_read :
    (eventOf callbackHost ⟨"secret"⟩ (callbackDelivery .paid)).map readingOf =
      some ("3", "123", .checkoutPaid, true) := by
  decide +kernel

/-- The wallet of the started checkout, and the bundle that it buys. -/
def trialBalance : BillingPointBalance := ⟨1, 65, 65, 0⟩

def starterBundle : BillingPointBundle :=
  ⟨"starter_150", 150, 100, "EGP", "Starter", "مبتدئ"⟩

theorem checkoutWorld_awaiting :
    Awaiting checkoutWorld startedCheckout starterBundle trialBalance "3" "123" := by
  constructor <;> decide +kernel

/-- A pending callback, then the paid one of the same transaction: no top-up, no points. -/
theorem pending_swallows_paid :
    Awaiting checkoutWorld startedCheckout starterBundle trialBalance "3" "123" ∧
    (∀ delivery ∈ [callbackDelivery .pending, callbackDelivery .paid], ∃ event,
      Belongs callbackHost ⟨"secret"⟩ "3" "123" delivery event) ∧
    (∃ event ∈ [callbackDelivery .pending, callbackDelivery .paid].filterMap
        (eventOf callbackHost ⟨"secret"⟩),
      prices startedCheckout event = true ∧ event.eventType = .checkoutPaid) ∧
    ¬CreditedOnce checkoutWorld (deliverAll callbackHost ⟨"secret"⟩
      [callbackDelivery .pending, callbackDelivery .paid] checkoutWorld) 1 150 "123" := by
  obtain ⟨pending, isPending, pendingBelongs, pendingKind, pendingPriced⟩ :=
    callback_belongs pending_read
  obtain ⟨paid, isPaid, paidBelongs, paidKind, paidPriced⟩ := callback_belongs paid_read
  have events : [callbackDelivery .pending, callbackDelivery .paid].filterMap
      (eventOf callbackHost ⟨"secret"⟩) = [pending, paid] := by
    simp [isPending, isPaid]
  have belong : ∀ delivery ∈ [callbackDelivery .pending, callbackDelivery .paid], ∃ event,
      Belongs callbackHost ⟨"secret"⟩ "3" "123" delivery event := by
    simp only [List.mem_cons, List.not_mem_nil, or_false, forall_eq_or_imp, forall_eq]
    exact ⟨⟨pending, pendingBelongs⟩, paid, paidBelongs⟩
  refine ⟨checkoutWorld_awaiting, belong, ⟨paid, by simp [events], paidPriced, paidKind⟩, ?_⟩
  have decides : ([callbackDelivery .pending, callbackDelivery .paid].filterMap
      (eventOf callbackHost ⟨"secret"⟩)).find? (prices startedCheckout) = some pending := by
    rw [events, List.find?_cons_of_pos pendingPriced]
  have decided := deliverAll_first belong checkoutWorld_awaiting decides
  rw [pendingKind] at decided
  exact fun credited => nomatch decided.mp credited

theorem paid_then_pending :
    CreditedOnce checkoutWorld (deliverAll callbackHost ⟨"secret"⟩
      [callbackDelivery .paid, callbackDelivery .pending] checkoutWorld) 1 150 "123" := by
  obtain ⟨pending, isPending, pendingBelongs, pendingKind, pendingPriced⟩ :=
    callback_belongs pending_read
  obtain ⟨paid, isPaid, paidBelongs, paidKind, paidPriced⟩ := callback_belongs paid_read
  have events : [callbackDelivery .paid, callbackDelivery .pending].filterMap
      (eventOf callbackHost ⟨"secret"⟩) = [paid, pending] := by
    simp [isPending, isPaid]
  have belong : ∀ delivery ∈ [callbackDelivery .paid, callbackDelivery .pending], ∃ event,
      Belongs callbackHost ⟨"secret"⟩ "3" "123" delivery event := by
    simp only [List.mem_cons, List.not_mem_nil, or_false, forall_eq_or_imp, forall_eq]
    exact ⟨⟨paid, paidBelongs⟩, pending, pendingBelongs⟩
  apply (credited_iff_first_paid belong checkoutWorld_awaiting
    ⟨paid, by simp [events], paidPriced, paidKind⟩).mpr
  rw [events, List.find?_cons_of_pos paidPriced, Option.map_some, paidKind]
  rfl

end MarketMind.Billing
