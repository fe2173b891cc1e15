import MarketMind.Billing.WalletCalls
import MarketMind.Transactions.Serial

/-!
Owns the accounts of a wallet over whole serial runs: what the balance row and
the ledger say of each other after any sequence of calls, and that a call that
throws has left every existing wallet alone.
-/

namespace MarketMind.Billing

open Accounting MarketMind.Transactions MarketMind.Transactions.Store

variable (port : PaymentProviderPort)

/-- The operations on wallets. A paid webhook is the transaction in which its event is applied. -/
inductive Operation
  | ensureBillingAccount (userId : Uuid)
  | spendPoints (userId : Uuid) (metric : BillingMetric) (units : Number) (claimKey : String)
  | refundPoints (userId : Uuid) (claimKey : String)
  | releaseStrategyCycle (userId : Uuid) (strategyId : String)
  | applyPaidEvent (attempt : BillingCheckoutAttempt) (event : PaymentProviderEvent)

def Operation.program : Operation → Code Unit
  | ensureBillingAccount userId => (Billing.ensureBillingAccount userId).discard
  | spendPoints userId metric units claimKey => Billing.spendPoints userId metric units claimKey
  | refundPoints userId claimKey => Billing.refundPoints userId claimKey
  | releaseStrategyCycle userId strategyId => Billing.releaseStrategyCycle userId strategyId
  | applyPaidEvent attempt event => Program.transaction (Billing.applyPaidEvent attempt event)

/-- One operation after another on a schedule of database failures: what it
returns, and the world after it. -/
def Operation.perform (operation : Operation) (schedule : Schedule) (world : World) :
    Except BillingError Unit × World :=
  store.call schedule operation.program world

/-- The worlds that serial runs reach. Operations and whole webhook requests run
one after the other; in between, the rest of the API changes what it likes but
balances and ledger (it creates checkouts, it pauses accounts), and deletes no
account. -/
inductive Serially : World → Prop
  | empty : Serially World.empty
  | operation {world : World} (operation : Operation) (schedule : Schedule) : Serially world →
      Serially (operation.perform schedule world).2
  | webhook {world : World} (providerName : String) (input : ProviderWebhookInput)
      (schedule : Schedule) : Serially world →
      Serially (store.call schedule (handleWebhook port providerName input) world).2
  | elsewhere {world after : World} : Serially world →
      after.balances = world.balances → after.ledger = world.ledger →
      (∀ id, after.findAccount id = none → world.findAccount id = none) → Serially after

/-- Serial runs admit every statement. -/
def serialCalls : Discipline billing World Call where
  issues _ := True
  admits _ _ _ _ := True
  isolation := .oneAtATime

variable {port}

theorem keeps_operation (operation : Operation) (pid : Pid) (call : Call) :
    KeepsWallets port serialCalls pid call operation.program := by
  cases operation with
  | ensureBillingAccount userId => exact Protocol.maintains_discard (keeps_ensureBillingAccount userId)
  | spendPoints userId metric units claimKey =>
      exact keeps_spendPoints userId metric units claimKey
  | refundPoints userId claimKey => exact keeps_refundPoints userId claimKey
  | releaseStrategyCycle userId strategyId => exact keeps_releaseStrategyCycle userId strategyId
  | applyPaidEvent attempt event => exact fun world _ => applyPaidEvent_wp world

theorem serially_invariant {world : World} (reached : Serially port world) :
    WalletInvariant world := by
  induction reached with
  | empty => exact walletInvariant_empty
  | operation operation schedule _ inductionHypothesis =>
      have safe : KeepsWallets port serialCalls schedule.pid (.ensureBillingAccount 0)
        operation.program := keeps_operation operation schedule.pid _
      exact invariant_of_call (fun _ _ => trivial) inductionHypothesis (safe _ inductionHypothesis)
  | webhook providerName input schedule _ inductionHypothesis =>
      have safe : KeepsWallets port serialCalls schedule.pid (.handleWebhook providerName input)
        (handleWebhook port providerName input) := keeps_handleWebhook providerName input
      exact invariant_of_call (fun _ _ => trivial) inductionHypothesis (safe _ inductionHypothesis)
  | elsewhere _ balances ledger accounts inductionHypothesis =>
      refine ⟨?_, ?_, ?_⟩
      · intro account balance found
        simp only [World.findBalance, balances] at found
        simp only [World.ledgerOf, ledger]
        exact inductionHypothesis.wallet account balance found
      · intro account absent
        simp only [World.findBalance, balances] at absent
        simp only [World.ledgerOf, ledger]
        exact inductionHypothesis.orphan account absent
      · intro account absent
        simp only [World.findBalance, balances]
        exact inductionHypothesis.owned account (accounts account absent)

/-! ### Calls that throw -/

/-- Every existing wallet is as it was. -/
def SparesWallets (before after : World) : Prop :=
  ∀ account, before.findBalance account ≠ none →
    after.findBalance account = before.findBalance account ∧
      after.ledgerOf account = before.ledgerOf account

theorem sparesWallets_refl (world : World) : SparesWallets world world :=
  fun _ _ => ⟨rfl, rfl⟩

theorem sparesWallets_trans (first second third : World) (left : SparesWallets first second)
    (right : SparesWallets second third) : SparesWallets first third := by
  intro account exists_
  have leftSame := left account exists_
  have rightSame := right account (by rw [leftSame.1]; exact exists_)
  exact ⟨rightSame.1.trans leftSame.1, rightSame.2.trans leftSame.2⟩

theorem quiet_elsewhere {asked : Statement} (elsewhere : touchesWallets asked = false) :
    store.Quiet SparesWallets (@Program.ask billing asked) := by
  refine quiet_ask sparesWallets_refl fun _ choice world effect executed account _ => ?_
  obtain ⟨-, balances, ledger⟩ := leaves_of_elsewhere elsewhere choice world effect executed world
  exact ⟨by simp only [World.findBalance, balances], by simp only [World.ledgerOf, ledger]⟩

theorem quiet_pure {α : Type} (value : α) :
    store.Quiet SparesWallets (pure value : Code α) :=
  quiet_done sparesWallets_refl (.ok value)

theorem quiet_throw {α : Type} (error : BillingError) :
    store.Quiet SparesWallets (throw error : Code α) :=
  @quiet_done billing World Key store _ SparesWallets sparesWallets_refl (.error error)

/-- The trial row of a new account. -/
def trialGrantRow (id : Uuid) : BillingPointLedger where
  billingAccountId := id
  direction := .credit
  reason := .trialGrant
  metric := none
  points := trialGrantPoints
  balanceAfter := trialGrantPoints
  claimKey := "trial-grant:" ++ toString id
  transactionId := none

/-- Opening a wallet where there is none touches no other. -/
theorem sparesWallets_open {world : World} (account : BillingAccount)
    (unopened : world.findBalance account.id = none) :
    SparesWallets world
      { world with
        accounts := world.accounts ++ [account]
        balances := world.balances ++ [⟨account.id, trialGrantPoints, trialGrantPoints, 0⟩]
        ledger := world.ledger ++ [trialGrantRow account.id] } := by
  intro other exists_
  have distinct : account.id ≠ other := by
    rintro rfl
    exact exists_ unopened
  constructor
  · simp [World.findBalance, List.find?_append, distinct]
  · simp [World.ledgerOf, List.filter_append, trialGrantRow, distinct]

/-- The wallets that a world begins with stay as they are. -/
def sparingProtocol (port : PaymentProviderPort) (begun : World) : Protocol (system port) where
  discipline := serialCalls
  invariant := SparesWallets begun
  rely _ _ _ := True
  rely_refl _ _ := trivial
  rely_trans _ _ _ _ _ _ := trivial

theorem quiet_openAccount (port : PaymentProviderPort) (userId : Uuid) (business : Option Uuid) :
    store.Quiet SparesWallets (Program.transaction do
      let account ← Db.createAccount userId business
      Db.createBalance ⟨account.id, trialGrantPoints, trialGrantPoints, 0⟩
      Db.createLedger (trialGrantRow account.id)
      return account) := by
  refine quiet_of_wp (.ensureBillingAccount userId) (sparingProtocol port) (fun _ _ _ _ => trivial)
    sparesWallets_refl (fun _ _ spares => spares) fun pid begun => ?_
  have harmless : Protocol.Harmless ((sparingProtocol port begun).closePost pid
      (.ensureBillingAccount userId)
      (fun (_ : Except billing.Error BillingAccount) session _ => session = none)) :=
    fun _ _ _ _ _ _ => rfl
  rw [Protocol.wp_transaction]
  intro creating _ _
  rw [Protocol.wp_bind]
  refine Protocol.wp_ask_open harmless.bindPost fun _ _ choice effect executed => ?_
  obtain ⟨-, executed⟩ := ok_of_unless executed
  obtain rfl := Except.ok.inj executed
  intro balancing _ _
  change (sparingProtocol port begun).wp pid _ (Db.createBalance _ >>= _) _ _ _
  rw [Protocol.wp_bind]
  refine Protocol.wp_ask_open harmless.bindPost fun _ _ _ effect executed => ?_
  obtain ⟨unopened, executed⟩ := ok_of_unless executed
  obtain rfl := Except.ok.inj executed
  intro granting calmGranting _
  change (sparingProtocol port begun).wp pid _ (Db.createLedger _ >>= _) _ _ _
  rw [Protocol.wp_bind]
  refine Protocol.wp_ask_open harmless.bindPost fun _ _ _ effect executed => ?_
  obtain ⟨-, executed⟩ := ok_of_unless executed
  obtain rfl := Except.ok.inj executed
  intro committing calmCommitting spares
  have noBalance : balancing.findBalance (fresh (creating.accounts.map (·.id)) choice) = none := by
    have noRow : balancing.balances.any (·.billingAccountId =
        fresh (creating.accounts.map (·.id)) choice) = false := Bool.eq_false_iff.mpr unopened
    simpa [World.findBalance] using noRow
  have stillNone := (findBalance_of_agree
    (calmCommitting.ofExtend.agree _ rfl (.balance _) List.mem_cons_self)).trans
      ((findBalance_of_agree (calmGranting.agree _ rfl (.balance _) List.mem_cons_self)).trans noBalance)
  refine Protocol.closePost_ok rfl ⟨?_, fun _ _ => trivial, fun _ _ _ => rfl⟩
  refine sparesWallets_trans begun committing _ spares ?_
  exact sparesWallets_open ⟨_, userId, business, .active⟩ stillNone

theorem quiet_ensureBillingAccount (port : PaymentProviderPort) (userId : Uuid) :
    store.Quiet SparesWallets (ensureBillingAccount userId) := by
  unfold ensureBillingAccount
  refine quiet_bind sparesWallets_trans (quiet_elsewhere rfl) fun existing => ?_
  cases existing with
  | some existing => exact quiet_pure existing
  | none =>
      refine quiet_bind sparesWallets_trans (quiet_elsewhere rfl) fun business => ?_
      refine quiet_tryCatch sparesWallets_trans (quiet_openAccount port userId business)
        fun error => ?_
      dsimp only
      split
      · refine quiet_bind sparesWallets_trans (quiet_elsewhere rfl) fun replay => ?_
        cases replay with
        | some replay => exact quiet_pure replay
        | none => exact quiet_throw error
      · exact quiet_throw error

theorem flat_claimLedger (row : BillingPointLedger) : Flat (claimLedger row) := by
  refine flat_tryCatch (flat_ask _) fun error => ?_
  split
  · exact flat_pure ()
  · exact flat_throw error

theorem flat_spendFromWallet (account : Uuid) (metric : BillingMetric) (points : Int)
    (claimKey : String) : Flat (spendFromWallet account metric points claimKey) := by
  unfold spendFromWallet
  refine flat_bind (flat_ask _) fun _ => flat_bind (flat_ask _) fun claimed => ?_
  cases claimed with
  | some row => exact flat_pure ()
  | none =>
      refine flat_bind (flat_ask _) fun found => ?_
      cases found with
      | none => exact flat_throw _
      | some balance =>
          dsimp only
          split
          · exact flat_throw _
          · exact flat_bind (flat_ask _) fun _ => flat_claimLedger _

theorem flat_refundToWallet (account : Uuid) (claimKey : String) :
    Flat (refundToWallet account claimKey) := by
  unfold refundToWallet
  refine flat_bind (flat_ask _) fun _ => flat_bind (flat_ask _) fun refunded => ?_
  cases refunded with
  | some row => exact flat_pure ()
  | none =>
      refine flat_bind (flat_ask _) fun spending => ?_
      cases spending with
      | none => exact flat_pure ()
      | some spend =>
          dsimp only
          split
          · exact flat_pure ()
          · refine flat_bind (flat_ask _) fun found => ?_
            cases found with
            | none => exact flat_throw _
            | some balance => exact flat_bind (flat_ask _) fun _ => flat_claimLedger _

theorem flat_applyPaidEvent (attempt : BillingCheckoutAttempt) (event : PaymentProviderEvent) :
    Flat (applyPaidEvent attempt event) := by
  unfold applyPaidEvent
  refine flat_bind (flat_ask _) fun existing => ?_
  cases existing with
  | some existing => exact flat_pure ()
  | none =>
      dsimp only
      split
      · exact flat_throw _
      · refine flat_bind (flat_ask _) fun _ => flat_bind (flat_ask _) fun transaction =>
          flat_bind (flat_ask _) fun _ => flat_bind (flat_ask _) fun found => ?_
        cases found with
        | none => exact flat_throw _
        | some balance =>
            exact flat_bind (flat_ask _) fun _ => flat_bind (flat_ask _) fun _ => flat_ask _

theorem clean_spendPoints (port : PaymentProviderPort) (userId : Uuid) (metric : BillingMetric)
    (units : Number) (claimKey : String) :
    store.Clean SparesWallets (spendPoints userId metric units claimKey) := by
  unfold spendPoints
  cases positiveUnits units with
  | none => exact (quiet_throw _).clean
  | some units =>
      dsimp only
      split
      · exact (quiet_pure ()).clean
      · refine clean_bind sparesWallets_trans (quiet_ensureBillingAccount port userId)
          fun account => clean_bind sparesWallets_trans ?_ fun _ => ?_
        · unfold assertAccountActive
          split
          · exact quiet_throw _
          · exact quiet_pure ()
        · exact clean_transaction sparesWallets_refl (flat_spendFromWallet _ _ _ _)

theorem clean_refundPoints (port : PaymentProviderPort) (userId : Uuid) (claimKey : String) :
    store.Clean SparesWallets (refundPoints userId claimKey) :=
  clean_bind sparesWallets_trans (quiet_ensureBillingAccount port userId) fun _ =>
    clean_transaction sparesWallets_refl (flat_refundToWallet _ _)

theorem clean_operation (port : PaymentProviderPort) (operation : Operation) :
    store.Clean SparesWallets operation.program := by
  cases operation with
  | ensureBillingAccount userId =>
      exact (quiet_discard (quiet_ensureBillingAccount port userId)).clean
  | spendPoints userId metric units claimKey =>
      exact clean_spendPoints port userId metric units claimKey
  | refundPoints userId claimKey => exact clean_refundPoints port userId claimKey
  | releaseStrategyCycle userId strategyId =>
      refine clean_bind sparesWallets_trans (quiet_ensureBillingAccount port userId) fun account =>
        clean_bind sparesWallets_trans (quiet_elsewhere rfl) fun spend => ?_
      cases spend with
      | none => exact (quiet_pure ()).clean
      | some spend => exact clean_refundPoints port userId spend.claimKey
  | applyPaidEvent attempt event =>
      exact clean_transaction sparesWallets_refl (flat_applyPaidEvent attempt event)

/-! ### The accounts of a wallet -/

/-- What a wallet's balance row and ledger say of each other. -/
structure Accounted (balance : BillingPointBalance) (rows : List BillingPointLedger) : Prop where
  nonneg : 0 ≤ balance.balance
  sums : balance.balance = sumOf .credit rows - sumOf .debit rows
  newest : ∃ row, rows.getLast? = some row ∧ row.balanceAfter = balance.balance
  granted : balance.lifetimeGranted = grants rows
  spent : balance.lifetimeSpent = sumOf .debit rows
  claimed : (rows.map (·.claimKey)).Nodup
  /-- Every refund reverses a debit. -/
  reverses : ∀ refund ∈ rows, refund.reason = .refund →
    ∃ debit ∈ rows, debit.direction = .debit ∧ refund.claimKey = "refund:" ++ debit.claimKey ∧
      refund.points = debit.points
  restores : ∀ debit ∈ rows, ∀ refund ∈ rows, refund.reason = .refund →
    refund.claimKey = "refund:" ++ debit.claimKey → refund.points = debit.points
  /-- A debit is reversed at most once. -/
  once : ∀ debit ∈ rows, ∀ first ∈ rows, ∀ second ∈ rows,
    first.claimKey = "refund:" ++ debit.claimKey → second.claimKey = "refund:" ++ debit.claimKey →
      first = second

theorem WalletOk.accounted {balance : BillingPointBalance} {rows : List BillingPointLedger}
    (ok : WalletOk balance rows) : Accounted balance rows where
  nonneg := ok.nonneg
  sums := by rw [ok.balanced, total_signed]
  newest := ok.newest
  granted := by rw [ok.granted, total_granted]
  spent := by rw [ok.spent, total_spent]
  claimed := ok.keys
  reverses := ok.refunds
  restores := fun _ debitMember _ refundMember isRefund key =>
    ok.refund_points debitMember refundMember isRefund key
  once := fun _ _ _ firstMember _ secondMember firstKey secondKey =>
    ok.row_unique firstMember secondMember (firstKey.trans secondKey.symm)

/-- In every world that serial runs reach, every wallet is accounted for, and an
operation that throws leaves every existing wallet exactly as it was. -/
theorem wallets_accounted {world : World} (reached : Serially port world) :
    (∀ account balance, world.findBalance account = some balance →
      Accounted balance (world.ledgerOf account)) ∧
    ∀ operation schedule error, (Operation.perform operation schedule world).1 = .error error →
      SparesWallets world (Operation.perform operation schedule world).2 := by
  refine ⟨?_, ?_⟩
  · intro account balance found
    exact ((serially_invariant reached).wallet account balance found).accounted
  · intro operation schedule error thrown
    exact (clean_operation port operation schedule ⟨0, none, world⟩ rfl).2 error thrown

/-- A schedule on which nothing fails. -/
def calm : Schedule := ⟨0, fun _ => 0, fun _ => false⟩

/-- An image is charged to a new wallet and refunded. -/
def refundedWorld : World :=
  let opened := ((Operation.ensureBillingAccount 7).perform calm World.empty).2
  let charged := ((Operation.spendPoints 7 .staticImage (.integer 1) "image:1").perform calm opened).2
  ((Operation.refundPoints 7 "image:1").perform calm charged).2

/-- Two strategy cycles cost more than the trial grant. -/
def overdraft : Operation := .spendPoints 7 .strategyCycle (.integer 2) "cycle:1"

theorem refundedWorld_reached : Serially .closed refundedWorld :=
  ((Serially.empty.operation (.ensureBillingAccount 7) calm).operation
    (.spendPoints 7 .staticImage (.integer 1) "image:1") calm).operation
      (.refundPoints 7 "image:1") calm

theorem refunded_wallet_accounted :
    refundedWorld.findBalance 0 = some ⟨0, 65, 65, 8⟩ ∧
    Accounted ⟨0, 65, 65, 8⟩ (refundedWorld.ledgerOf 0) ∧
    SparesWallets refundedWorld (overdraft.perform calm refundedWorld).2 := by
  have found : refundedWorld.findBalance 0 = some ⟨0, 65, 65, 8⟩ := by decide +kernel
  have thrown : (overdraft.perform calm refundedWorld).1 = .error (.domain
      "BILLING_INSUFFICIENT_POINTS" "Not enough points for this action. Top up to continue.") := by
    decide +kernel
  obtain ⟨accounted, spared⟩ := wallets_accounted refundedWorld_reached
  exact ⟨found, accounted 0 _ found, spared overdraft calm _ thrown⟩

end MarketMind.Billing
