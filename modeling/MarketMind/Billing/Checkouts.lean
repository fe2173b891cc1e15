import MarketMind.Billing.Sandbox
import MarketMind.Billing.Webhooks

/-!
Owns what the status of a checkout says about its payments, over every
interleaving of webhooks and sandbox confirmations: it is `succeeded` exactly
while a succeeded transaction with its top-up exists, as long as no failed or
pending event is applied to a checkout that has succeeded.
-/

namespace MarketMind.Billing

open MarketMind.Transactions MarketMind.Transactions.Protocol

/-- The ledger has the top-up of the transaction. -/
def ToppedUp (world : World) (transaction : BillingPaymentTransaction) : Prop :=
  ∃ row ∈ world.ledgerOf transaction.billingAccountId,
    row.reason = .topup ∧ row.transactionId = some transaction.id

/-- A succeeded payment of the checkout, with its top-up, exists. -/
def Paid (world : World) (attempt : Uuid) : Prop :=
  ∃ transaction ∈ world.transactions, transaction.checkoutAttemptId = attempt ∧
    transaction.status = .succeeded ∧ ToppedUp world transaction

/-- Checkouts tell the truth about their payments. -/
structure CheckoutInvariant (world : World) : Prop where
  truthful : ∀ attempt ∈ world.attempts, attempt.status = .succeeded ↔ Paid world attempt.id
  credited : ∀ transaction ∈ world.transactions, transaction.status = .succeeded →
    ToppedUp world transaction

/-- An update to a status other than `succeeded` finds a checkout that has not succeeded. -/
def findsUnpaid (_ : Pid) (_ : CheckoutCall) (asked : Statement) (world : World) : Bool :=
  match asked with
  | .updateAttempt id status _ =>
      status = .succeeded || world.attempts.all fun attempt =>
        attempt.id ≠ id || attempt.status ≠ .succeeded
  | _ => true

/-- Runs in which no failed or pending event is applied to a succeeded checkout. -/
def unpaidUpdates : Discipline billing World CheckoutCall where
  issues _ := True
  admits pid call asked world := findsUnpaid pid call asked world = true
  isolation := .readCommitted

/-- No payment and no ledger row disappears. -/
structure Grows (before after : World) : Prop where
  transactions : before.transactions ⊆ after.transactions
  ledger : before.ledger ⊆ after.ledger

theorem Grows.refl (world : World) : Grows world world :=
  ⟨List.Subset.refl _, List.Subset.refl _⟩

theorem Grows.trans {first second third : World} (left : Grows first second)
    (right : Grows second third) : Grows first third :=
  ⟨List.Subset.trans left.transactions right.transactions,
    List.Subset.trans left.ledger right.ledger⟩

/-- A paid checkout stays paid. -/
theorem Grows.paid {before after : World} (grows : Grows before after) {attempt : Uuid}
    (paid : Paid before attempt) : Paid after attempt := by
  obtain ⟨transaction, member, same, succeeded, row, rowMember, facts⟩ := paid
  refine ⟨transaction, grows.transactions member, same, succeeded, row, ?_, facts⟩
  have selected := List.mem_filter.mp rowMember
  exact List.mem_filter.mpr ⟨grows.ledger selected.1, selected.2⟩

/-- Checkouts tell the truth in every committed world, and payments stay. -/
def checkoutProtocol (deployment : Deployment) : Protocol (checkoutSystem deployment) where
  discipline := unpaidUpdates
  invariant := CheckoutInvariant
  rely _ := Grows
  rely_refl _ := Grows.refl
  rely_trans _ := Grows.trans

/-- Attempts, transactions and ledger decide whether checkouts tell the truth. -/
theorem CheckoutInvariant.congr {before after : World} (invariant : CheckoutInvariant before)
    (attempts : after.attempts = before.attempts)
    (transactions : after.transactions = before.transactions)
    (ledger : after.ledger = before.ledger) : CheckoutInvariant after := by
  have topUps : ∀ transaction, ToppedUp after transaction ↔ ToppedUp before transaction := by
    intro transaction
    simp only [ToppedUp, World.ledgerOf, ledger]
  constructor
  · intro attempt member
    rw [attempts] at member
    rw [invariant.truthful attempt member]
    simp only [Paid, transactions, topUps]
  · intro transaction member succeeded
    rw [transactions] at member
    exact (topUps transaction).mpr (invariant.credited transaction member succeeded)

/-- A failed or pending event on a checkout that has not succeeded. -/
theorem CheckoutInvariant.reject {before after : World} {id : Uuid}
    {change : BillingCheckoutAttempt → BillingCheckoutAttempt}
    (invariant : CheckoutInvariant before)
    (attempts : after.attempts = updateWhere (·.id = id) change before.attempts)
    (transactions : after.transactions = before.transactions)
    (ledger : after.ledger = before.ledger)
    (sameId : ∀ attempt, (change attempt).id = attempt.id)
    (rejects : ∀ attempt, (change attempt).status ≠ .succeeded)
    (unpaid : ∀ attempt ∈ before.attempts, attempt.id = id → attempt.status ≠ .succeeded) :
    CheckoutInvariant after := by
  have topUps : ∀ transaction, ToppedUp after transaction ↔ ToppedUp before transaction := by
    intro transaction
    simp only [ToppedUp, World.ledgerOf, ledger]
  have payments : ∀ attempt, Paid after attempt ↔ Paid before attempt := by
    intro attempt
    simp only [Paid, transactions, topUps]
  constructor
  · intro attempt member
    rw [attempts] at member
    obtain ⟨earlier, earlierMember, rfl⟩ := List.mem_map.mp member
    by_cases chosen : earlier.id = id
    · have noPayment : ¬Paid before earlier.id := by
        rw [← invariant.truthful earlier earlierMember]
        exact unpaid earlier earlierMember chosen
      simp only [chosen, decide_true, if_true, sameId, payments]
      rw [chosen] at noPayment
      exact iff_of_false (rejects earlier) noPayment
    · simp only [chosen, decide_false, Bool.false_eq_true, if_false, payments]
      exact invariant.truthful earlier earlierMember
  · intro transaction member succeeded
    rw [transactions] at member
    exact (topUps transaction).mpr (invariant.credited transaction member succeeded)

/-- A paid event: its transaction, its top-up, and the checkout succeeded. -/
theorem CheckoutInvariant.pay {before after : World} {id : Uuid}
    {change : BillingCheckoutAttempt → BillingCheckoutAttempt}
    {transaction : BillingPaymentTransaction} {row : BillingPointLedger}
    (invariant : CheckoutInvariant before)
    (attempts : after.attempts = updateWhere (·.id = id) change before.attempts)
    (transactions : after.transactions = before.transactions ++ [transaction])
    (ledger : after.ledger = before.ledger ++ [row])
    (sameId : ∀ attempt, (change attempt).id = attempt.id)
    (succeeds : ∀ attempt, (change attempt).status = .succeeded)
    (pays : transaction.checkoutAttemptId = id) (succeeded : transaction.status = .succeeded)
    (owner : row.billingAccountId = transaction.billingAccountId)
    (isTopUp : row.reason = .topup) (refers : row.transactionId = some transaction.id) :
    CheckoutInvariant after := by
  have keepsTopUps : ∀ transaction, ToppedUp before transaction → ToppedUp after transaction := by
    rintro transaction ⟨row, member, facts⟩
    refine ⟨row, ?_, facts⟩
    simp only [World.ledgerOf, ledger, List.filter_append]
    exact List.mem_append_left _ member
  have toppedUp : ToppedUp after transaction := by
    refine ⟨row, ?_, isTopUp, refers⟩
    simp [World.ledgerOf, ledger, owner]
  have paidHere : Paid after id :=
    ⟨transaction, by simp [transactions], pays, succeeded, toppedUp⟩
  have paidElsewhere : ∀ other, other ≠ id → (Paid after other ↔ Paid before other) := by
    intro other distinct
    constructor
    · rintro ⟨payment, member, same, status, -⟩
      rw [transactions] at member
      rcases List.mem_append.mp member with earlier | last
      · exact ⟨payment, earlier, same, status, invariant.credited payment earlier status⟩
      · rw [List.mem_singleton.mp last, pays] at same
        exact absurd same.symm distinct
    · rintro ⟨payment, member, same, status, topUp⟩
      exact ⟨payment, by rw [transactions]; exact List.mem_append_left _ member, same, status,
        keepsTopUps payment topUp⟩
  constructor
  · intro attempt member
    rw [attempts] at member
    obtain ⟨earlier, earlierMember, rfl⟩ := List.mem_map.mp member
    by_cases chosen : earlier.id = id
    · simp only [chosen, decide_true, if_true, sameId]
      exact iff_of_true (succeeds earlier) paidHere
    · simp only [chosen, decide_false, Bool.false_eq_true, if_false]
      rw [paidElsewhere earlier.id chosen]
      exact invariant.truthful earlier earlierMember
  · intro payment member status
    rw [transactions] at member
    rcases List.mem_append.mp member with earlier | last
    · exact keepsTopUps payment (invariant.credited payment earlier status)
    · rw [List.mem_singleton.mp last]
      exact toppedUp

/-! ### Checks of the calls -/

section Calls

variable {deployment : Deployment} {pid : Pid} {call : CheckoutCall}

/-- A transaction so far: what it has made of the rows that decide a checkout. -/
structure Staged (opened : Session World Key)
    (attempts : List BillingCheckoutAttempt → List BillingCheckoutAttempt)
    (transactions : List BillingPaymentTransaction → List BillingPaymentTransaction)
    (ledger : List BillingPointLedger → List BillingPointLedger) : Prop where
  sound : opened.doomed = false
  attempts : ∀ world, (opened.pending world).attempts = attempts world.attempts
  transactions : ∀ world, (opened.pending world).transactions = transactions world.transactions
  ledger : ∀ world, (opened.pending world).ledger = ledger world.ledger

theorem Staged.fresh : Staged (.fresh : Session World Key) id id id :=
  ⟨rfl, fun _ => rfl, fun _ => rfl, fun _ => rfl⟩

/-- Whether a statement may change a row that decides a checkout. -/
def touchesCheckouts : Statement → Bool
  | .createLedger _ | .updateAttempt _ _ _ | .createTransaction _ => true
  | _ => false

theorem spares_of_elsewhere {asked : Statement} (elsewhere : touchesCheckouts asked = false)
    {choice : Nat} {world : World} {effect : Effect World Key asked.Reply}
    (executed : exec choice asked world = .ok effect) (other : World) :
    (effect.write other).attempts = other.attempts ∧
      (effect.write other).transactions = other.transactions ∧
      (effect.write other).ledger = other.ledger := by
  cases asked
  case createLedger | updateAttempt | createTransaction => cases elsewhere
  case createAccount | createBalance | createEvent | createOutbox =>
    obtain ⟨-, executed⟩ := ok_of_unless executed
    obtain rfl := Except.ok.inj executed
    exact ⟨rfl, rfl, rfl⟩
  case updateEvent =>
    obtain ⟨-, executed⟩ := ok_of_when executed
    obtain rfl := Except.ok.inj executed
    exact ⟨rfl, rfl, rfl⟩
  case updateBalance account data =>
    simp only [exec] at executed
    split at executed
    · cases executed
    · obtain rfl := Except.ok.inj executed
      exact ⟨rfl, rfl, rfl⟩
  all_goals
    obtain rfl := Except.ok.inj executed
    exact ⟨rfl, rfl, rfl⟩

variable {attempts : List BillingCheckoutAttempt → List BillingCheckoutAttempt}
  {transactions : List BillingPaymentTransaction → List BillingPaymentTransaction}
  {ledger : List BillingPointLedger → List BillingPointLedger}

/-- A statement on other tables. -/
theorem staged_elsewhere {asked : Statement} {opened : Session World Key} {world : World}
    {Q : Except billing.Error asked.Reply → Option (Session World Key) → World → Prop}
    (harmless : Harmless Q) (staged : Staged opened attempts transactions ledger)
    (elsewhere : touchesCheckouts asked = false)
    (goesOn : ∀ reply (next : Session World Key), Staged next attempts transactions ledger →
      opened.held ⊆ next.held →
        (checkoutProtocol deployment).After pid (some next) world (Q (.ok reply) (some next))) :
    (checkoutProtocol deployment).wp pid call (@Program.ask billing asked) Q (some opened)
      world := by
  apply wp_ask_open harmless
  intro _ _ choice effect executed
  have spares := spares_of_elsewhere elsewhere executed
  apply goesOn effect.reply _ _ (List.subset_append_right _ _)
  constructor
  · exact staged.sound
  · intro after
    exact (spares _).1.trans (staged.attempts after)
  · intro after
    exact (spares _).2.1.trans (staged.transactions after)
  · intro after
    exact (spares _).2.2.trans (staged.ledger after)

/-- The transaction row of a paid event. -/
theorem createTransaction_wp {transaction : BillingPaymentTransaction}
    {opened : Session World Key} {world : World}
    {Q : Except billing.Error BillingPaymentTransaction → Option (Session World Key) → World → Prop}
    (harmless : Harmless Q) (staged : Staged opened attempts transactions ledger)
    (goesOn : ∀ id (next : Session World Key),
      Staged next attempts (fun rows => transactions rows ++ [{ transaction with id }]) ledger →
        (checkoutProtocol deployment).After pid (some next) world
          (Q (.ok { transaction with id }) (some next))) :
    (checkoutProtocol deployment).wp pid call (Db.createTransaction transaction) Q (some opened)
      world := by
  apply wp_ask_open harmless
  intro _ _ choice effect executed
  obtain ⟨-, executed⟩ := ok_of_unless executed
  obtain rfl := Except.ok.inj executed
  apply goesOn
  constructor
  · exact staged.sound
  · exact staged.attempts
  · intro after
    exact congrArg (· ++ [_]) (staged.transactions after)
  · exact staged.ledger

/-- The status of a checkout, whose row is held from then on. -/
theorem updateAttempt_wp {id : Uuid} {status : CheckoutStatus} {confirmedAt : Option Int}
    {opened : Session World Key} {world : World}
    {Q : Except billing.Error Unit → Option (Session World Key) → World → Prop}
    (harmless : Harmless Q) (staged : Staged opened attempts transactions ledger)
    (goesOn : findsUnpaid pid call (.updateAttempt id status confirmedAt) (opened.pending world) =
        true → ∀ next : Session World Key,
      Staged next (fun rows => updateWhere (·.id = id)
        (fun row => { row with status, confirmedAt := confirmedAt.or row.confirmedAt })
          (attempts rows)) transactions ledger →
      Key.attempt id ∈ next.held →
        (checkoutProtocol deployment).After pid (some next) world (Q (.ok ()) (some next))) :
    (checkoutProtocol deployment).wp pid call (Db.updateAttempt id status confirmedAt) Q
      (some opened) world := by
  apply wp_ask_open harmless
  intro _ admitted choice effect executed
  obtain ⟨-, executed⟩ := ok_of_when executed
  obtain rfl := Except.ok.inj executed
  apply goesOn admitted _ _ List.mem_cons_self
  constructor
  · exact staged.sound
  · intro after
    exact congrArg (updateWhere _ _) (staged.attempts after)
  · exact staged.transactions
  · exact staged.ledger

/-- The top-up of a paid event. -/
theorem createTopUp_wp {row : BillingPointLedger} {opened : Session World Key} {world : World}
    {Q : Except billing.Error Unit → Option (Session World Key) → World → Prop}
    (harmless : Harmless Q) (staged : Staged opened attempts transactions ledger)
    (goesOn : ∀ next : Session World Key,
      Staged next attempts transactions (fun rows => ledger rows ++ [row]) →
        (checkoutProtocol deployment).After pid (some next) world (Q (.ok ()) (some next))) :
    (checkoutProtocol deployment).wp pid call (Db.createLedger row) Q (some opened) world := by
  apply wp_ask_open harmless
  intro _ _ choice effect executed
  obtain ⟨-, executed⟩ := ok_of_unless executed
  obtain rfl := Except.ok.inj executed
  apply goesOn
  constructor
  · exact staged.sound
  · exact staged.attempts
  · exact staged.transactions
  · intro after
    exact congrArg (· ++ [row]) (staged.ledger after)

/-- A transaction whose commit only adds payments and leaves the invariant in place. -/
theorem Staged.close {α : Type} {value : α} {opened : Session World Key} {world : World}
    (staged : Staged opened attempts transactions ledger)
    (addsTransactions : ∀ rows, rows ⊆ transactions rows) (addsRows : ∀ rows, rows ⊆ ledger rows)
    (commits : CheckoutInvariant (opened.pending world)) :
    (checkoutProtocol deployment).closePost pid call (Returned CheckoutInvariant) (.ok value)
      (some opened) world := by
  have grows : Grows world (opened.pending world) := by
    constructor
    · rw [staged.transactions]
      exact addsTransactions _
    · rw [staged.ledger]
      exact addsRows _
  exact closePost_ok staged.sound ⟨commits, fun _ _ => grows, fun _ _ holds => ⟨rfl, holds⟩⟩

/-- An attempt that no one else can update keeps its status. -/
theorem unpaid_of_agree {id : Uuid} {before after : World} (agree : Agree (.attempt id) before after)
    (unpaid : ∀ attempt ∈ before.attempts, attempt.id = id → attempt.status ≠ .succeeded) :
    ∀ attempt ∈ after.attempts, attempt.id = id → attempt.status ≠ .succeeded := by
  intro attempt member same
  have selected : attempt ∈ after.attempts.filter (·.id = id) :=
    List.mem_filter.mpr ⟨member, decide_eq_true same⟩
  rw [← agree] at selected
  exact unpaid attempt (List.mem_filter.mp selected).1 same

theorem maintains_reject (id : Uuid) (status : CheckoutStatus) (rejects : status ≠ .succeeded) :
    (checkoutProtocol deployment).Maintains pid call
      (Program.transaction (Db.updateAttempt id status none)) := by
  intro started _
  rw [wp_transaction]
  intro updating _ _
  apply updateAttempt_wp (close_harmless call) .fresh
  intro admitted opened staged held committing calm holds
  have unpaid : ∀ attempt ∈ updating.attempts, attempt.id = id → attempt.status ≠ .succeeded := by
    intro attempt member same
    have checked : ∀ attempt ∈ updating.attempts, attempt.id ≠ id ∨ attempt.status ≠ .succeeded := by
      simpa [findsUnpaid, rejects, Session.fresh] using admitted
    exact (checked attempt member).resolve_left (not_not_intro same)
  have unpaidNow := unpaid_of_agree (calm.agree _ rfl _ held) unpaid
  apply staged.close List.Subset.refl List.Subset.refl
  exact holds.reject (staged.attempts committing) (staged.transactions committing)
    (staged.ledger committing) (fun _ => rfl) (fun _ => rejects) unpaidNow

theorem maintains_applyPaidEvent (attempt : BillingCheckoutAttempt) (event : PaymentProviderEvent) :
    (checkoutProtocol deployment).Maintains pid call
      (Program.transaction (applyPaidEvent attempt event)) := by
  intro started _
  have harmless : Harmless ((checkoutProtocol deployment).closePost pid call
    (Returned CheckoutInvariant : Except billing.Error Unit → _)) := close_harmless call
  rw [wp_transaction]
  intro searching _ _
  unfold applyPaidEvent
  rw [wp_bind]
  apply staged_elsewhere harmless.bindPost .fresh rfl
  intro existing opened staged _ locking _ holdsLocking
  cases existing with
  | some existing =>
      apply staged.close List.Subset.refl List.Subset.refl
      exact holdsLocking.congr (staged.attempts _) (staged.transactions _) (staged.ledger _)
  | none =>
      dsimp only
      cases getBillingBundle attempt.priceCode with
      | none => exact close_harmless call _ none locking
      | some bundle =>
          change (checkoutProtocol deployment).wp pid call
            (Db.lockAccount attempt.billingAccountId >>= _) _ _ _
          rw [wp_bind]
          apply staged_elsewhere harmless.bindPost staged rfl
          intro _ opened staged _ paying _ _
          change (checkoutProtocol deployment).wp pid call (Db.createTransaction _ >>= _) _ _ _
          rw [wp_bind]
          apply createTransaction_wp harmless.bindPost staged
          intro id opened staged confirming _ _
          change (checkoutProtocol deployment).wp pid call (Db.updateAttempt _ _ _ >>= _) _ _ _
          rw [wp_bind]
          apply updateAttempt_wp harmless.bindPost staged
          intro _ opened staged _ reading _ _
          change (checkoutProtocol deployment).wp pid call
            (Db.findBalance attempt.billingAccountId >>= _) _ _ _
          rw [wp_bind]
          apply staged_elsewhere harmless.bindPost staged rfl
          intro balance opened staged _ updating _ _
          cases balance with
          | none => exact close_harmless call _ none updating
          | some balance =>
              change (checkoutProtocol deployment).wp pid call (Db.updateBalance _ _ >>= _) _ _ _
              rw [wp_bind]
              apply staged_elsewhere harmless.bindPost staged rfl
              intro _ opened staged _ posting _ _
              change (checkoutProtocol deployment).wp pid call (Db.createLedger _ >>= _) _ _ _
              rw [wp_bind]
              apply createTopUp_wp harmless.bindPost staged
              intro opened staged noting _ _
              apply staged_elsewhere harmless staged rfl
              intro _ opened staged _ committing _ holds
              apply staged.close (fun _ => List.subset_append_left _ _)
                fun _ => List.subset_append_left _ _
              exact holds.pay (staged.attempts committing) (staged.transactions committing)
                (staged.ledger committing) (fun _ => rfl) (fun _ => rfl) rfl rfl rfl rfl rfl

theorem maintains_applyEvent (attempt : BillingCheckoutAttempt) (event : PaymentProviderEvent) :
    (checkoutProtocol deployment).Maintains pid call
      (Program.transaction (applyEvent attempt event)) := by
  unfold applyEvent
  cases event.eventType with
  | checkoutPaid => exact maintains_applyPaidEvent attempt event
  | checkoutPending => exact maintains_reject attempt.id .pending nofun
  | checkoutFailed => exact maintains_reject attempt.id .failed nofun

theorem maintains_elsewhere {asked : Statement} (elsewhere : touchesCheckouts asked = false) :
    (checkoutProtocol deployment).Maintains pid call (@Program.ask billing asked) := by
  apply maintains_ask
  intro choice world effect _ executed holds
  obtain ⟨attempts, transactions, ledger⟩ := spares_of_elsewhere elsewhere executed world
  have grows : Grows world (effect.write world) := by
    constructor
    · rw [transactions]
      exact List.Subset.refl _
    · rw [ledger]
      exact List.Subset.refl _
  exact ⟨holds.congr attempts transactions ledger, fun _ _ => grows⟩

theorem maintains_webhook (providerName : String) (input : ProviderWebhookInput) :
    (checkoutProtocol deployment).Maintains pid call
      (handleWebhook deployment.port providerName input) := by
  apply maintains_handleWebhook
  · intro asked handles
    apply maintains_elsewhere
    cases asked <;> first | rfl | cases handles
  · exact maintains_applyEvent

theorem maintains_confirmSandboxCheckout (userId : Uuid) (providerCheckoutRef : String)
    (outcome : SandboxOutcome) (nonce : SandboxNonce) :
    (checkoutProtocol deployment).Maintains pid call
      (confirmSandboxCheckout deployment userId providerCheckoutRef outcome nonce) := by
  unfold confirmSandboxCheckout
  split
  · exact maintains_throw _
  · apply maintains_bind (maintains_elsewhere rfl)
    intro attempt
    cases attempt with
    | none => exact maintains_throw _
    | some attempt =>
        apply maintains_bind (maintains_elsewhere rfl)
        intro owned
        cases owned with
        | none => exact maintains_throw _
        | some account =>
            dsimp only
            split
            · exact maintains_pure _
            · split
              · exact maintains_webhook _ _
              · split
                · exact maintains_webhook _ _
                · exact maintains_throw _

end Calls

theorem checkouts_safe (deployment : Deployment) :
    (checkoutProtocol deployment).Safe fun _ _ => True := by
  apply safe_of_maintains
  intro pid call _ _ _
  cases call with
  | handleWebhook providerName input => exact maintains_discard (maintains_webhook providerName input)
  | confirmSandboxCheckout userId providerCheckoutRef outcome nonce =>
      exact maintains_discard
        (maintains_confirmSandboxCheckout userId providerCheckoutRef outcome nonce)

/-- In every run in which no failed or pending event is applied to a checkout that
has succeeded, a checkout is `succeeded` exactly while it is paid, and the next
step of the run leaves it so. -/
theorem succeeded_iff_paid (deployment : Deployment) {start : World}
    (holds : CheckoutInvariant start) {machine : Machine billing World Key CheckoutCall}
    (reached : Reaches (checkoutSystem deployment) unpaidUpdates start machine)
    {attempt : BillingCheckoutAttempt} (member : attempt ∈ machine.world.attempts) :
    (attempt.status = .succeeded ↔ Paid machine.world attempt.id) ∧
      ∀ move after, unpaidUpdates.AdmitsMove machine move →
        (checkoutSystem deployment).step machine move = some after →
          ∀ later ∈ after.world.attempts, later.id = attempt.id → attempt.status = .succeeded →
            later.status = .succeeded := by
  have safe := checkouts_safe deployment
  have truthful := (invariant_of_reaches safe holds reached).truthful attempt member
  refine ⟨truthful, ?_⟩
  intro move after admitted stepped later laterMember same succeeded
  obtain ⟨pid, relied⟩ := relied_of_step safe holds reached admitted stepped
  have grows : Grows machine.world after.world := relied (pid + 1) (Nat.succ_ne_self pid)
  have kept : CheckoutInvariant after.world :=
    invariant_of_reaches safe holds (reached.move move admitted stepped)
  rw [kept.truthful later laterMember, same]
  exact grows.paid (truthful.mp succeeded)

/-! ### A paid checkout that a late failure unpays -/

/-- The HMAC-SHA512 under the secret `"secret"` of three callbacks for checkout 3:
transaction 123 pending, then paid, and transaction 124 failed. -/
def callbackHmacs : List (String × String) :=
  [("100002024-01-01T00:00:00.000ZEGPfalsefalse123456falsetruetruefalsetruefalse123123true" ++
      "0000Testcardfalse",
    "529e2165bcde97607455aafbc700ee124e7002382d19b5bba3e71e0262b3d13f" ++
      "e9c0ae50d87079a145a451dc51661065b6b43c8e7aba1129a13b6b5e4db6686a"),
   ("100002024-01-01T00:00:00.000ZEGPfalsefalse123456falsetruetruefalsetruefalse123123false" ++
      "0000Testcardtrue",
    "527a4ecd076a7526606a22f18012d83e42ee18544eff8bc508871eb9a6f7e5e9" ++
      "7d757ec6c0b43aa1987f71095bdc6ad361c3dbdfaa170f678ddff44f164493a1"),
   ("100002024-01-01T00:00:00.000ZEGPfalsefalse124456falsetruetruefalsetruefalse124124false" ++
      "0000Testcardfalse",
    "fc31ed16023175ea3d2c450b0d60e5ffc89f975d9e55a21ae3e12c9ff07b4bdd" ++
      "aae7bf418e3e36fef10ddc23e13a53acedf8bfbe20b6c2192f82ff0b11abb1fc")]

/-- A host that knows these signatures; its digest keeps the bytes apart. -/
def callbackHost : Host where
  hmacSha512 _ message := (callbackHmacs.lookup message).getD ""
  hmacSha256 _ _ := ""
  sha256 bytes := String.ofList (bytes.map fun byte => Char.ofNat byte.toNat)
  toUpperCase text := text.map Char.toUpper
  toLowerCase text := text.map Char.toLower
  parseDate text := if text = "2024-01-01T00:00:00.000Z" then some 1704067200000 else none

def paymobDeployment : Deployment where
  host := callbackHost
  port := Paymob.provider callbackHost ⟨"secret"⟩
  nodeEnv := "test"
  fakeSecret := ""
  hmacSecret := "secret"
  integrationId := 456

/-- A started checkout of the smallest bundle. -/
def startedCheckout : BillingCheckoutAttempt :=
  ⟨3, 1, "starter_150", some "3", 100, "EGP", .oneTimeCard, .pending, none⟩

/-- The same after transaction 123 was confirmed, and after a failure on top of it. -/
def confirmedCheckout (status : CheckoutStatus) : BillingCheckoutAttempt :=
  { startedCheckout with status, confirmedAt := some 1704067200000 }

/-- One account with its trial grant and a started checkout. -/
def checkoutWorld : World :=
  { World.empty with
    accounts := [⟨1, 7, none, .active⟩]
    balances := [⟨1, 65, 65, 0⟩]
    ledger := [⟨1, .credit, .trialGrant, none, 65, 65, "trial-grant:1", none⟩]
    attempts := [startedCheckout] }

theorem checkoutWorld_invariant : CheckoutInvariant checkoutWorld := by
  constructor
  · intro attempt member
    obtain rfl := List.mem_singleton.mp member
    apply iff_of_false
    · decide
    · rintro ⟨transaction, none, -⟩
      cases none
  · intro transaction none
    cases none

/-- A callback of the provider for the started checkout. -/
def callbackOf (outcome : SandboxOutcome) (transactionId : Int) : CheckoutCall :=
  .handleWebhook "paymob" (paymobWebhook paymobDeployment startedCheckout outcome
    ⟨"", "", transactionId, "2024-01-01T00:00:00.000Z"⟩)

/-- One callback after the other: the paid one takes 14 steps, the failed one 7. -/
def paidThenFailed : List (Move CheckoutCall) :=
  [.issue 0 (callbackOf .paid 123)] ++ List.replicate 14 (.step 0 0) ++
    [.issue 1 (callbackOf .failed 124)] ++ List.replicate 7 (.step 1 0)

def failedThenPaid : List (Move CheckoutCall) :=
  [.issue 1 (callbackOf .failed 124)] ++ List.replicate 7 (.step 1 0) ++
    [.issue 0 (callbackOf .paid 123)] ++ List.replicate 14 (.step 0 0)

/-- The payment of transaction 123 and its top-up. -/
def payment : BillingPaymentTransaction :=
  ⟨0, 1, 3, "paymob", "123", .succeeded, 100, "EGP", .oneTimeCard, 1704067200000⟩

def paymentTopUp : BillingPointLedger :=
  ⟨1, .credit, .topup, none, 150, 215, "topup:123", some 0⟩

/-- What is read off the final machine. -/
def checkoutOutcome (machine : Machine billing World Key CheckoutCall) :
    List BillingCheckoutAttempt × Bool × Bool :=
  (machine.world.attempts, machine.world.transactions = [payment],
    paymentTopUp ∈ machine.world.ledgerOf 1)

theorem paid_of_outcome {machine : Machine billing World Key CheckoutCall}
    {attempts : List BillingCheckoutAttempt}
    (seen : checkoutOutcome machine = (attempts, true, true)) :
    machine.world.attempts = attempts ∧ Paid machine.world 3 := by
  obtain ⟨sameAttempts, transactions, topUp⟩ :
      machine.world.attempts = attempts ∧ machine.world.transactions = [payment] ∧
        paymentTopUp ∈ machine.world.ledgerOf 1 := by
    simpa [checkoutOutcome] using seen
  refine ⟨sameAttempts, payment, ?_, rfl, rfl, paymentTopUp, topUp, rfl, rfl⟩
  rw [transactions]
  exact List.mem_singleton_self _

/-- The checkout has failed, with its payment and its top-up in place. -/
theorem failed_event_unpays :
    CheckoutInvariant checkoutWorld ∧
    ∃ machine, Reaches (checkoutSystem paymobDeployment) .free checkoutWorld machine ∧
      ∃ attempt ∈ machine.world.attempts,
        ¬(attempt.status = .succeeded ↔ Paid machine.world attempt.id) := by
  have played : ((checkoutSystem paymobDeployment).play (.idle checkoutWorld)
      paidThenFailed).map checkoutOutcome =
        some ([confirmedCheckout .failed], true, true) := by decide +kernel
  obtain ⟨machine, reached, seen⟩ := Reaches.of_play played
  obtain ⟨attempts, paid⟩ := paid_of_outcome seen
  refine ⟨checkoutWorld_invariant, machine, reached, confirmedCheckout .failed, ?_, ?_⟩
  · rw [attempts]
    exact List.mem_singleton_self _
  · exact fun same => nomatch same.mpr paid

theorem paid_after_failed :
    ∃ machine : Machine billing World Key CheckoutCall, ∃ attempt ∈ machine.world.attempts,
      attempt.id = 3 ∧ attempt.status = .succeeded := by
  have played : ((checkoutSystem paymobDeployment).playChecked findsUnpaid (.idle checkoutWorld)
      failedThenPaid).map checkoutOutcome =
        some ([confirmedCheckout .succeeded], true, true) := by decide +kernel
  obtain ⟨machine, moved, seen⟩ := Option.map_eq_some_iff.mp played
  have reached : Reaches (checkoutSystem paymobDeployment) unpaidUpdates checkoutWorld machine :=
    Reaches.idle.playChecked (fun _ => trivial) rfl (fun _ _ _ _ passes => passes) moved
  obtain ⟨attempts, paid⟩ := paid_of_outcome seen
  have member : confirmedCheckout .succeeded ∈ machine.world.attempts := by
    rw [attempts]
    exact List.mem_singleton_self _
  have iff := succeeded_iff_paid paymobDeployment checkoutWorld_invariant reached member
  exact ⟨machine, _, member, rfl, iff.1.mpr paid⟩

end MarketMind.Billing
